/-
Module: HttpScript.Proofs.FilePath.Lexical
Purpose: Resolving a path against the root by its names alone, where a step up takes back the name
  before it and leads nowhere from the root.  A resolved include is this, but for the steps up that
  are taken at the root: every other one of them stays in the path.
Main exports: enter, lexical, upsAtRoot, route, collapse_eq, place_resolve, resolve_lexical,
  not_resolve_lexical
-/
import HttpScript.Proofs.FilePath.Place
import Mathlib.Data.List.Basic

namespace HttpScript.FilePath

/-! ### From the root, name by name -/

/-- The directory or file that a component leads to.  Each is given by the names on the way to it
from the root, from which no step leads up. -/
def enter (names : List (List UInt8)) : Component → List (List UInt8)
  | .current => names
  | .parent => names.dropLast
  | .name bytes => names ++ [bytes]

/-- Where some components lead from the root. -/
def lexical (components : List Component) : List (List UInt8) :=
  components.foldl enter []

/-- One, if the component is a step up and there is nothing to take back. -/
def upAtRoot (names : List (List UInt8)) (c : Component) : Nat :=
  if c = .parent ∧ names = [] then 1 else 0

/-- How many of the components are steps up that are taken at the root. -/
def upsAtRoot (names : List (List UInt8)) : List Component → Nat
  | [] => 0
  | c :: rest => upAtRoot names c + upsAtRoot (enter names c) rest

/-- The components to go along from the root to what `target` names when it is written in `document`:
those of its directory come first, unless the target begins at the root itself. -/
def route (document : FilePath) (target : String) : List Component :=
  if (ofString target).isAbsolute then (ofString target).components
  else document.directory.2 ++ (ofString target).components

/-- Whether the way begins at the root. -/
def fromRoot (document : FilePath) (target : String) : Bool :=
  (ofString target).isAbsolute || document.directory.1

/-! ### What is left of the steps up -/

/-- Of the steps up taken at the root the first stays in the path, the second takes it back, and so
on. -/
def kept (ups : Nat) : List Component :=
  if ups % 2 = 1 then [.parent] else []

variable {names names' : List (List UInt8)} {m n : Nat}

theorem reverse_kept (n : Nat) : (kept n).reverse = kept n := by
  unfold kept
  split
  · rfl
  · rfl

theorem walk_kept (n : Nat) : walk (kept n) .parent = kept (n + 1) := by
  unfold kept
  by_cases hodd : n % 2 = 1
  · have heven : ¬(n + 1) % 2 = 1 := by omega
    rw [if_pos hodd, if_neg heven]
    rfl
  · have hnext : (n + 1) % 2 = 1 := by omega
    rw [if_neg hodd, if_pos hnext]
    rfl

/-- One step of the walk: on top of what is left of the steps up at the root lie the names. -/
theorem walk_eq (names : List (List UInt8)) (n : Nat) (c : Component) :
    walk ((names.map .name).reverse ++ kept n) c =
      ((enter names c).map .name).reverse ++ kept (n + upAtRoot names c) := by
  cases c with
  | current => rfl
  | name bytes =>
      rw [enter, List.map_append, List.reverse_append]
      rfl
  | parent =>
      rcases List.eq_nil_or_concat' names with rfl | ⟨before, last, rfl⟩
      · exact walk_kept n
      · have hnone : upAtRoot (before ++ [last]) .parent = 0 := if_neg (by simp)
        rw [enter, List.dropLast_concat, hnone, List.map_append, List.reverse_append]
        rfl

theorem foldl_walk_eq (cs : List Component) (names : List (List UInt8)) (n : Nat) :
    cs.foldl walk ((names.map .name).reverse ++ kept n) =
      ((cs.foldl enter names).map .name).reverse ++ kept (n + upsAtRoot names cs) := by
  induction cs generalizing names n with
  | nil => rfl
  | cons c rest ih =>
      rw [List.foldl_cons, walk_eq, ih, upsAtRoot, Nat.add_assoc]
      rfl

/-- The names that the components lead to, behind what is left of the steps up at the root. -/
theorem collapse_eq (cs : List Component) :
    collapse cs = kept (upsAtRoot [] cs) ++ (lexical cs).map Component.name := by
  have hwalk : cs.foldl walk [] =
      ((lexical cs).map Component.name).reverse ++ kept (upsAtRoot [] cs) := by
    have hfold := foldl_walk_eq cs [] 0
    rwa [Nat.zero_add] at hfold
  rw [collapse, hwalk, List.reverse_append, List.reverse_reverse, reverse_kept]

theorem kept_append_inj : kept m ++ names.map .name = kept n ++ names'.map .name ↔
    names = names' ∧ m % 2 = n % 2 := by
  have hinj : Function.Injective Component.name := fun _ _ h => Component.name.inj h
  unfold kept
  by_cases hm : m % 2 = 1
  · by_cases hn : n % 2 = 1
    · simp [hm, hn, List.map_inj_right hinj]
    · have hne : ¬1 = n % 2 := fun h => hn h.symm
      cases names' with
      | nil => simp [hm, hn, hne]
      | cons name rest => simp [hm, hn, hne]
  · by_cases hn : n % 2 = 1
    · cases names with
      | nil => simp [hm, hn]
      | cons name rest => simp [hm, hn]
    · have heq : m % 2 = n % 2 := by omega
      simp [heq, hn, List.map_inj_right hinj]

/-! ### Resolved paths -/

theorem resolve_eq_collapse (document : FilePath) (target : String) :
    document.resolve target =
      ofComponents (document.fromRoot target) (collapse (document.route target)) := by
  cases habsolute : (ofString target).isAbsolute with
  | true => simp only [resolve, fromRoot, route, habsolute, if_true, Bool.true_or]
  | false =>
      simp only [resolve, fromRoot, route, habsolute, Bool.false_or, Bool.false_eq_true, if_false]

theorem isStep_of_mem_route {document : FilePath} {target : String} {c : Component}
    (h : c ∈ document.route target) (hc : c ≠ .current) : c.IsStep := by
  unfold route at h
  split at h
  · exact isStep_of_mem_components h hc
  · rcases List.mem_append.mp h with h | h
    · exact isStep_of_mem_components (mem_components_of_mem_directory h) hc
    · exact isStep_of_mem_components h hc

theorem place_resolve (document : FilePath) (target : String) :
    (document.resolve target).place = (document.fromRoot target,
      kept (upsAtRoot [] (document.route target)) ++
        (lexical (document.route target)).map .name) := by
  have hsteps : ∀ c ∈ collapse (document.route target), c.IsStep := by
    apply isStep_collapse
    intro c hc
    exact isStep_of_mem_route hc
  rw [resolve_eq_collapse, place_ofComponents _ hsteps, collapse_eq]

/-- Only in the root directory itself a way does not begin at the root: it lies in no directory. -/
theorem fromRoot_iff {document : FilePath} (h : document.isAbsolute = true) (target : String) :
    document.fromRoot target = true ↔
      (ofString target).isAbsolute = true ∨ document.components ≠ [] := by
  have hdirectory : document.directory.1 = true ↔ document.components ≠ [] := by
    unfold directory
    cases hcomponents : document.components with
    | nil => simp
    | cons first rest => simpa using h
  rw [fromRoot, Bool.or_eq_true, hdirectory]

/-- An include of a document that is named from the root resolves to the names that its components
lead to from there.  If an odd number of steps up is taken at the root, one of them stays in front of
the names.  So two of them are the same path if they lead to the same names and agree in this, and
else they are not. -/
theorem resolve_lexical (document : FilePath) (target : String)
    (h : document.isAbsolute = true) :
    let ups := upsAtRoot [] (document.route target)
    let names := lexical (document.route target)
    (document.fromRoot target = true ↔
      (ofString target).isAbsolute = true ∨ document.components ≠ []) ∧
    (ups % 2 = 0 →
      (document.resolve target).place = (document.fromRoot target, names.map .name)) ∧
    (ups % 2 = 1 →
      (document.resolve target).place = (document.fromRoot target, .parent :: names.map .name)) ∧
    ∀ (other : FilePath) (target' : String),
      (document.resolve target = other.resolve target' ↔
        document.fromRoot target = other.fromRoot target' ∧
        names = lexical (other.route target') ∧
        ups % 2 = upsAtRoot [] (other.route target') % 2) := by
  intro ups names
  have hplace := place_resolve document target
  refine ⟨fromRoot_iff h target, ?_, ?_, ?_⟩
  · intro heven
    have hkept : kept ups = [] := if_neg (by omega)
    rw [hplace, hkept, List.nil_append]
  · intro hodd
    have hkept : kept ups = [.parent] := if_pos hodd
    rw [hplace, hkept, List.singleton_append]
  · intro other target'
    have hplace' := place_resolve other target'
    constructor
    · intro heq
      rw [heq, hplace', Prod.mk.injEq, kept_append_inj] at hplace
      exact ⟨hplace.1.symm, hplace.2.1.symm, hplace.2.2.symm⟩
    · rintro ⟨hroot, hnames, hups⟩
      apply resolve_eq_of_place_eq
      rw [hplace, hplace', hroot, kept_append_inj.mpr ⟨hnames, hups⟩]

/-- A document two directories below the root. -/
def usersDocument : FilePath :=
  .ofString "/work/api/users.http"

/-- Two steps up from the root lead to the same path as none, and one to another. -/
theorem resolve_lexical_usersDocument :
    usersDocument.isAbsolute = true ∧
      upsAtRoot [] (usersDocument.route "../../.././../x") = 2 ∧
      (usersDocument.resolve "../../.././../x").place = (true, [.name [0x78]]) ∧
      usersDocument.resolve "../../.././../x" = usersDocument.resolve "/x" ∧
      usersDocument.resolve "../../../x" ≠ usersDocument.resolve "/x" := by
  have habsolute : usersDocument.isAbsolute = true := by decide
  have hups : upsAtRoot [] (usersDocument.route "../../.././../x") = 2 := by decide
  obtain ⟨-, hplace, -, hsame⟩ :=
    resolve_lexical usersDocument "../../.././../x" habsolute
  obtain ⟨-, -, -, hother⟩ := resolve_lexical usersDocument "../../../x" habsolute
  refine ⟨habsolute, hups, hplace (by rw [hups]), (hsame usersDocument "/x").mpr ?_, ?_⟩
  · decide
  · intro heq
    obtain ⟨-, -, hparity⟩ := (hother usersDocument "/x").mp heq
    revert hparity
    decide

/-- A step up at the root stays in the path, which then is another one. -/
theorem not_resolve_lexical :
    ¬∀ (document : FilePath) (target : String), document.isAbsolute = true →
      document.components ≠ [] →
      (document.resolve target).place = (true, (lexical (document.route target)).map .name) := by
  intro h
  have hplace := h (.ofString "/work/a.http") "../../x.http" (by decide) (by decide)
  revert hplace
  decide

end HttpScript.FilePath
