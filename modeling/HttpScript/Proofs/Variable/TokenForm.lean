/-
Module: HttpScript.Proofs.Variable.TokenForm
Purpose: The form of a reference written out as what stands there from left to right: opening
  braces, a name that goes on as far as it can, and all up to the first closing braces behind the
  name.  The recogniser of references finds exactly the texts that begin with this form.
Main exports: IsFirstClosing, splitAtClosing_eq_some_iff, isFirstClosing_cons_iff, TokenForm,
  token?_eq_some_iff, token?_eq_none_iff
-/
import HttpScript.Proofs.Text.Trim
import HttpScript.Variable.Reference

namespace HttpScript.Variable

open Text

variable {s before after : List Char} {t : Token}

/-! ### The first closing braces -/

/-- The closing braces between `before` and `after` are the first ones. -/
structure IsFirstClosing (s before after : List Char) : Prop where
  split : s = before ++ (Token.closing ++ after)
  first : ∀ before' after', s = before' ++ (Token.closing ++ after') →
    before.length ≤ before'.length

/-- Nothing stands in front of the first closing braces if the text begins with some. -/
theorem IsFirstClosing.eq_nil {rest : List Char}
    (h : IsFirstClosing (Token.closing ++ rest) before after) : before = [] :=
  List.length_eq_zero_iff.mp (Nat.le_zero.mp (h.first [] rest rfl))

theorem IsFirstClosing.of_splitAtClosing (h : splitAtClosing s = some (before, after)) :
    IsFirstClosing s before after := by
  refine ⟨by simpa using splitAtClosing_eq h, ?_⟩
  intro before' after' hsplit
  induction s using splitAtClosing.induct generalizing before before' with
  | case1 rest =>
      rw [splitAtClosing] at h
      obtain ⟨rfl, -⟩ := Prod.mk.inj (Option.some.inj h)
      exact Nat.zero_le _
  | case2 c rest hne ih =>
      rw [splitAtClosing] at h
      · obtain ⟨⟨front, back⟩, hfront, heq⟩ := Option.map_eq_some_iff.mp h
        obtain ⟨rfl, rfl⟩ := Prod.mk.inj heq
        cases before' with
        | nil =>
            obtain ⟨rfl, rfl⟩ := List.cons.inj hsplit
            exact (hne after' rfl rfl).elim
        | cons d before' =>
            obtain ⟨-, hrest⟩ := List.cons.inj hsplit
            exact Nat.succ_le_succ (ih hfront before' hrest)
      · exact hne
  | case3 => cases h

theorem IsFirstClosing.splitAtClosing_eq (h : IsFirstClosing s before after) :
    splitAtClosing s = some (before, after) := by
  obtain ⟨rfl, hfirst⟩ := h
  induction before with
  | nil => rfl
  | cons c before ih =>
      have hrest : splitAtClosing (before ++ (Token.closing ++ after)) = some (before, after) := by
        apply ih
        intro before' after' hsplit
        have hle := hfirst (c :: before') after' (congrArg (c :: ·) hsplit)
        exact Nat.le_of_succ_le_succ hle
      rw [List.cons_append, splitAtClosing, hrest]
      · rfl
      · -- Braces here would be closing braces further in front.
        rintro after' rfl hclosing
        have hle := hfirst [] after' (congrArg ('\x7d' :: ·) hclosing)
        exact Nat.not_succ_le_zero _ hle

theorem splitAtClosing_eq_some_iff :
    splitAtClosing s = some (before, after) ↔ IsFirstClosing s before after :=
  ⟨.of_splitAtClosing, IsFirstClosing.splitAtClosing_eq⟩

/-- The first closing braces stay the first ones behind one more character that is no brace. -/
theorem isFirstClosing_cons_iff {c : Char} (hc : c ≠ '\x7d') :
    IsFirstClosing (c :: s) (c :: before) after ↔ IsFirstClosing s before after := by
  constructor
  · rintro ⟨hsplit, hfirst⟩
    refine ⟨(List.cons.inj hsplit).2, ?_⟩
    intro before' after' heq
    exact Nat.le_of_succ_le_succ (hfirst (c :: before') after' (congrArg (c :: ·) heq))
  · rintro ⟨hsplit, hfirst⟩
    refine ⟨congrArg (c :: ·) hsplit, ?_⟩
    intro before' after' heq
    cases before' with
    | nil => exact absurd (List.cons.inj heq).1 hc
    | cons d before' => exact Nat.succ_le_succ (hfirst before' after' (List.cons.inj heq).2)

/-! ### References -/

/-- A text that begins with a reference.  Behind the opening braces stands a name, not empty and as
long as can be.  Closing braces follow it, or a dot and closing braces further on; the reference ends
with the first ones. -/
inductive TokenForm : List Char → Token → Prop where
  | mk {name rest path after : List Char} (name_ne : name ≠ [])
      (name_chars : ∀ c ∈ name, isNameChar c = true)
      (name_longest : ∀ c ∈ rest.head?, isNameChar c = false)
      (follows : Token.closing <+: rest ∨ rest.head? = some '.')
      (closes : IsFirstClosing rest path after) :
      TokenForm (Token.opening ++ (name ++ rest)) ⟨name, path, after⟩

theorem TokenForm.of_token? (h : token? s = some t) : TokenForm s t := by
  unfold token? at h
  split at h
  · next inner =>
    have hparts := List.takeWhile_append_dropWhile (p := isNameChar) (l := inner)
    have hchars : ∀ c ∈ inner.takeWhile isNameChar, isNameChar c = true :=
      fun _ hc => List.mem_takeWhile_imp hc
    have hlongest : ∀ c ∈ (inner.dropWhile isNameChar).head?, isNameChar c = false :=
      head?_dropWhile_eq_false
    generalize inner.takeWhile isNameChar = name at h hparts hchars
    generalize inner.dropWhile isNameChar = rest at h hparts hlongest
    obtain rfl := hparts
    dsimp only at h
    split at h
    · cases h
    · next hname =>
      have hne : name ≠ [] := by simpa using hname
      split at h
      · next after =>
        cases h
        refine .mk hne hchars hlongest (.inl ⟨after, rfl⟩) ⟨rfl, ?_⟩
        intro before' after' _
        exact Nat.zero_le _
      · next path =>
        obtain ⟨⟨front, after⟩, hpath, rfl⟩ := Option.map_eq_some_iff.mp h
        refine .mk hne hchars hlongest (.inr rfl) ?_
        rw [isFirstClosing_cons_iff (by decide), ← splitAtClosing_eq_some_iff]
        exact hpath
      · cases h
  · cases h

/-- What follows a name decides whether it is the name of a reference. -/
theorem token?_closing {name after : List Char} (hne : name ≠ [])
    (hchars : ∀ c ∈ name, isNameChar c = true) :
    token? (Token.opening ++ (name ++ '\x7d' :: '\x7d' :: after)) = some ⟨name, [], after⟩ := by
  have hstop : ∀ c ∈ ('\x7d' :: '\x7d' :: after).head?, isNameChar c = false := by
    rintro c ⟨⟩
    decide
  have hname := takeWhile_append_of_stop hchars hstop
  have hrest := dropWhile_append_of_stop hchars hstop
  simp only [token?, Token.opening, List.cons_append, List.nil_append, hname, hrest,
    List.isEmpty_iff, hne, if_false]

theorem token?_dot {name rest : List Char} (hne : name ≠ [])
    (hchars : ∀ c ∈ name, isNameChar c = true) :
    token? (Token.opening ++ (name ++ '.' :: rest)) =
      (splitAtClosing rest).map (fun p => ⟨name, '.' :: p.1, p.2⟩) := by
  have hstop : ∀ c ∈ ('.' :: rest).head?, isNameChar c = false := by
    rintro c ⟨⟩
    decide
  have hname := takeWhile_append_of_stop hchars hstop
  have hrest := dropWhile_append_of_stop hchars hstop
  simp only [token?, Token.opening, List.cons_append, List.nil_append, hname, hrest,
    List.isEmpty_iff, hne, if_false]

theorem TokenForm.token?_eq (h : TokenForm s t) : token? s = some t := by
  cases h with
  | @mk name rest path after hne hchars hlongest hfollows hcloses =>
      rcases hfollows with ⟨behind, rfl⟩ | hdot
      · obtain rfl := hcloses.eq_nil
        obtain rfl := List.append_cancel_left hcloses.split
        exact token?_closing hne hchars
      · obtain ⟨rest, rfl⟩ := List.head?_eq_some_iff.mp hdot
        cases path with
        | nil => cases hcloses.split
        | cons c path =>
            obtain ⟨rfl, -⟩ := List.cons.inj hcloses.split
            rw [isFirstClosing_cons_iff (by decide), ← splitAtClosing_eq_some_iff] at hcloses
            rw [token?_dot hne hchars, hcloses]
            rfl

/-- A reference is found exactly where the form of one begins. -/
theorem token?_eq_some_iff : token? s = some t ↔ TokenForm s t :=
  ⟨.of_token?, TokenForm.token?_eq⟩

theorem token?_eq_none_iff : token? s = none ↔ ∀ t, ¬TokenForm s t := by
  simp only [Option.eq_none_iff_forall_ne_some, Ne, token?_eq_some_iff]

theorem TokenForm.unique {t' : Token} (h : TokenForm s t) (h' : TokenForm s t') : t = t' :=
  Option.some.inj (h.token?_eq.symm.trans h'.token?_eq)

/-- Nothing begins an empty text. -/
theorem not_tokenForm_nil : ¬TokenForm [] t := by
  intro h
  cases h.token?_eq

/-- The path is empty or begins with a dot. -/
theorem TokenForm.path_eq (h : TokenForm s t) : t.path = [] ∨ ∃ path, t.path = '.' :: path := by
  cases h with
  | @mk name rest path after hne hchars hlongest hfollows hcloses =>
      rcases hfollows with ⟨behind, rfl⟩ | hdot
      · exact .inl hcloses.eq_nil
      · cases path with
        | nil =>
            rw [hcloses.split] at hdot
            cases hdot
        | cons c path =>
            rw [hcloses.split] at hdot
            obtain rfl : c = '.' := Option.some.inj hdot
            exact .inr ⟨path, rfl⟩

end HttpScript.Variable
