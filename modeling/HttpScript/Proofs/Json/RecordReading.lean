/-
Module: HttpScript.Proofs.Json.RecordReading
Purpose: What is read from an object.  Each field of a record gives a value, from its member or from
  its default, and the record is read if every field does; the order of the members and members of
  other names have no part in it.  Typed data are read back from the JSON values they are written
  as.
Main exports: Dict.without, Value.members, Field.Gives, Record.Gives, Record.Gives.field,
  Record.Gives.decode, Decode.dictionary_ofDict
-/
import HttpScript.Json.Decode

namespace HttpScript

/-! ### Members -/

namespace Dict

universe u

variable {α : Type u}

/-- The map without the bindings of some names. -/
def without (d : Dict α) (names : List String) : Dict α :=
  ⟨d.entries.filter (fun e => e.1 ∉ names), d.sorted.filter _⟩

@[simp] theorem get?_without (d : Dict α) (names : List String) (key : String) :
    (d.without names).get? key = if key ∈ names then none else d.get? key := by
  rw [get?, without, Entries.get?_filter (fun k => k ∉ names)]
  by_cases hkey : key ∈ names
  · simp [hkey]
  · simp [hkey, get?]

theorem without_nil (d : Dict α) : d.without [] = d := by
  apply ext_get?
  intro name
  rw [get?_without, if_neg List.not_mem_nil]

end Dict

namespace Json

/-- The members of an object by their names; no other value has any. -/
def Value.members : Value → Dict Value
  | .object members => Dict.ofList members
  | _ => {}

@[simp] theorem Value.members_ofMembers (members : List (String × Value)) :
    (Value.ofMembers members).members = Dict.ofList members :=
  Dict.ofList_entries _

theorem Value.ofMembers_eq (members : List (String × Value)) :
    Value.ofMembers members = .object (Value.ofMembers members).members.entries := by
  rw [members_ofMembers]
  rfl

theorem Value.member?_ofMembers (members : List (String × Value)) (name : String) :
    (Value.ofMembers members).member? name = (Dict.ofList members).get? name := rfl

/-! ### Fields and records -/

variable {α β : Type} {members : Dict Value} {a : α}

theorem forM_eq_ok {ε : Type} {check : α → Except ε Unit} {l : List α}
    (h : ∀ x ∈ l, check x = .ok ()) : l.forM check = .ok () := by
  induction l with
  | nil => rfl
  | cons x l ih =>
      obtain ⟨hfirst, hrest⟩ := List.forall_mem_cons.mp h
      change (check x >>= fun _ => l.forM check) = .ok ()
      rw [hfirst]
      exact ih hrest

/-- What a field says, given the members of an object. -/
inductive Field.Gives (f : Field α) (members : Dict Value) (a : α) : Prop where
  | present {v : Value} (member : members.get? f.name = some v) (read_eq : f.read v = .ok a)
  | absent (no_member : members.get? f.name = none) (default_eq : f.ifAbsent = some a)

section Kinds

variable {name : String} {read : Value → Except DecodeError α} {v : Value}

theorem Field.Gives.required (hmember : members.get? name = some v) (hread : read v = .ok a) :
    (Field.required name read).Gives members a :=
  .present hmember hread

theorem Field.Gives.optional {a : Option α} (hmember : members.get? name = some v)
    (hread : Decode.optional read v = .ok a) : (Field.optional name read).Gives members a :=
  .present hmember hread

/-- A field with a default may be left out. -/
theorem Field.Gives.withDefault {leftOut : List String} (default : α)
    (hmember : members.get? name = if name ∈ leftOut then none else some v)
    (hread : read v = .ok a) :
    (Field.withDefault name read default).Gives members
      (if name ∈ leftOut then default else a) := by
  by_cases hname : name ∈ leftOut
  · rw [if_pos hname] at hmember ⊢
    exact .absent hmember rfl
  · rw [if_neg hname] at hmember ⊢
    exact .present hmember hread

end Kinds

/-- What a record says, given the members of an object, none of which is refused by its field. -/
structure Record.Gives (r : Record α) (members : Dict Value) (a : α) : Prop where
  accepted : ∀ check ∈ r.checks, ∀ v, members.get? check.1 = some v → check.2 v = .ok ()
  read_eq : r.ofMembers members.entries = .ok a

theorem Record.gives_pure (members : Dict Value) (a : α) : (Record.pure a).Gives members a :=
  ⟨List.forall_mem_nil _, rfl⟩

/-- One more field gives one more part. -/
theorem Record.Gives.field {r : Record (α → β)} {build : α → β} {f : Field α}
    (h : r.Gives members build) (hf : f.Gives members a) :
    (r.field f).Gives members (build a) := by
  constructor
  · intro check hcheck v hv
    rcases List.mem_append.mp hcheck with hcheck | hcheck
    · exact h.accepted check hcheck v hv
    · obtain rfl := List.mem_singleton.mp hcheck
      cases hf with
      | @present v' hmember hread =>
          obtain rfl : v = v' := Option.some.inj (hv.symm.trans hmember)
          simp only [hread]
          rfl
      | absent hnone => cases hnone.symm.trans hv
  · simp only [Record.field, h.read_eq]
    cases hf with
    | present hmember hread =>
        rw [Dict.get?] at hmember
        simp only [bind, Except.bind, hmember, hread]
        rfl
    | absent hnone hdefault =>
        rw [Dict.get?] at hnone
        simp only [bind, Except.bind, hnone, hdefault]

theorem Record.Gives.check_eq {r : Record α} (h : r.Gives members a) :
    r.check members.entries = .ok () := by
  rw [Record.check]
  apply forM_eq_ok
  intro m hm
  split
  next accepts hlookup =>
    obtain ⟨before, after, hchecks, -⟩ := List.lookup_eq_some_iff.mp hlookup
    exact h.accepted (m.1, accepts) (by simp [hchecks]) m.2 (Dict.mem_entries_iff.mp hm)
  next => rfl

/-- A record is read from an object with the members it asks for. -/
theorem Record.Gives.decode {r : Record α} (h : r.Gives members a) (name : String) :
    r.decode name (.object members.entries) = .ok a := by
  simp only [Record.decode, ofObject, h.check_eq]
  exact h.read_eq

theorem Record.Gives.decode_ofMembers {r : Record α} {written : List (String × Value)}
    (h : r.Gives (Value.ofMembers written).members a) (name : String) :
    r.decode name (.ofMembers written) = .ok a := by
  rw [Value.ofMembers_eq]
  exact h.decode name

/-! ### Data as they are written -/

namespace Decode

theorem text_string (s : String) : text (.string s) = .ok s := rfl

theorem count_nat (n : Nat) : count (.nat n) = .ok n := by
  rw [Value.nat, count, if_pos (Int.natCast_nonneg n), Int.toNat_natCast]

theorem optional_text (s : Option String) : optional text (.optional s) = .ok s := by
  cases s with
  | none => rfl
  | some s => rfl

/-- A map of texts is read back. -/
theorem dictionary_ofDict (d : Dict String) : dictionary (.ofDict d) = .ok d := by
  have htexts : (d.entries.map (fun e => (e.1, Value.string e.2))).mapM
      (fun m => (text m.2).map (fun s => (m.1, s))) = .ok d.entries := by
    rw [List.mapM_map]
    exact (List.mapM_pure (f := id)).trans (congrArg Except.ok (List.map_id d.entries))
  rw [Value.ofDict, dictionary, htexts]
  exact congrArg Except.ok d.ofList_entries

end Decode

end Json

end HttpScript
