import Mathlib.Data.List.Forall2
import ModelSchema.Json.Record
import ModelSchema.Proofs.JsonReading

set_option autoImplicit false

/-!
# Reading written records back

A record is written as an object with those of its members that are there, each under a name of its
own. What is read under a name is the member that was written there.

## Main definitions

* `Json.depth` — how many arrays and objects stand inside each other in a value.
* `Json.Within` — a member that may be left out has a bounded depth.
* `Json.Under` — a member that may be left out has a given name.

## Main results

* `Json.depth_objectOf_le_iff` — how deep a written record is.
* `Json.record?_objectOf` — the parts of a written record are the members that are there.
* `Json.part?_parts` — what is read under a name.
-/

namespace ModelSchema.Json

/-! ## Depth -/

mutual

/-- How many arrays and objects stand inside each other in a value. -/
def depth : Json → Nat
  | .array items => itemsDepth items + 1
  | .object members => membersDepth members + 1
  | _ => 0

/-- How many arrays and objects stand inside each other in one of some items. -/
def itemsDepth : List Json → Nat
  | [] => 0
  | item :: items => max item.depth (itemsDepth items)

/-- How many arrays and objects stand inside each other in the value of one of some members. -/
def membersDepth : List (String × Json) → Nat
  | [] => 0
  | (_, value) :: members => max value.depth (membersDepth members)

end

/-- Members are no deeper than `n` when none of them is. -/
lemma membersDepth_le_iff {members : List (String × Json)} {n : ℕ} :
    membersDepth members ≤ n ↔ ∀ member ∈ members, member.2.depth ≤ n := by
  induction members with
  | nil => simp [membersDepth]
  | cons first members ih => rw [membersDepth, Nat.max_le, ih, List.forall_mem_cons]

section Depth

variable {n : ℕ}

/-- A member that may be left out has no more than `n` arrays and objects inside each other if it is
there. -/
def Within (n : ℕ) (member : Option (String × Json)) : Prop :=
  ∀ entry, member = some entry → entry.2.depth ≤ n

/-- An object of members that may be missing is deeper by one than they are. -/
lemma depth_objectOf_le_iff {members : List (Option (String × Json))} :
    (objectOf members).depth ≤ n + 1 ↔ ∀ member ∈ members, Within n member := by
  rw [objectOf, depth, Nat.add_le_add_iff_right, membersDepth_le_iff]
  simp only [List.mem_filterMap, id]
  exact ⟨fun h member hm entry he => h entry ⟨member, hm, he⟩, fun h entry ⟨member, hm, he⟩ =>
    h member hm entry he⟩

/-- A member that is always there is as deep as its value. -/
lemma within_always_iff {name : String} {value : Json} :
    Within n (always name value) ↔ value.depth ≤ n := by
  simp [Within, always]

/-- A member that may be missing is as deep as its value, if it has one. -/
lemma within_present_iff {name : String} {value : Option Json} :
    Within n (present name value) ↔ ∀ v, value = some v → v.depth ≤ n := by
  cases value <;> simp [Within, present]

/-- A flag has no depth. -/
lemma within_flag (name : String) (value : Bool) : Within n (flag name value) := by
  cases value <;> simp [Within, flag, depth]

end Depth

/-! ## Records -/

/-- A member that may be left out has the given name if it is there. -/
def Under (name : String) (member : Option (String × Json)) : Prop :=
  ∀ entry, member = some entry → entry.1 = name

/-- A member that is always there stands under its name. -/
lemma under_always (name : String) (value : Json) : Under name (always name value) := by
  rintro _ ⟨⟩
  rfl

/-- A member that may be missing stands under its name. -/
lemma under_present (name : String) (value : Option Json) : Under name (present name value) := by
  intro entry h
  obtain ⟨v, -, rfl⟩ := Option.map_eq_some_iff.1 h
  rfl

/-- A flag stands under its name. -/
lemma under_flag (name : String) (value : Bool) : Under name (flag name value) := by
  intro entry h
  cases value <;> cases h
  rfl

section Parts

variable {names : List String} {members : List (Option (String × Json))}

/-- The names of the members that are there are some of the names, in order. -/
lemma sublist_names (h : List.Forall₂ Under names members) :
    List.Sublist ((members.filterMap id).map (·.1)) names := by
  induction h with
  | nil => exact .slnil
  | @cons name member names members hunder _ ih =>
    cases member with
    | none => exact ih.cons name
    | some entry =>
      obtain rfl := hunder entry rfl
      exact ih.cons_cons entry.1

/-- What is found under a name is the member that belongs to it. -/
lemma find?_filterMap (h : List.Forall₂ Under names members) (hnodup : names.Nodup) (i : ℕ)
    {name : String} {member : Option (String × Json)} (hname : names[i]? = some name)
    (hmember : members[i]? = some member) :
    (members.filterMap id).find? (·.1 == name) = member := by
  induction h generalizing i with
  | nil => simp at hname
  | @cons first entry names members hunder hrest ih =>
    obtain ⟨hfirst, hnodup⟩ := List.nodup_cons.1 hnodup
    cases i with
    | zero =>
      obtain rfl : first = name := by simpa using hname
      obtain rfl : entry = member := by simpa using hmember
      cases entry with
      | none =>
        refine List.find?_eq_none.2 fun e he hfound => hfirst ?_
        obtain rfl := eq_of_beq hfound
        exact (sublist_names hrest).subset (List.mem_map_of_mem he)
      | some entry => simp [hunder entry rfl]
    | succ i =>
      have hfound := ih hnodup i (by simpa using hname) (by simpa using hmember)
      cases entry with
      | none => exact hfound
      | some entry =>
        have hne : entry.1 ≠ name := by
          rintro rfl
          rw [hunder entry rfl] at hname
          exact hfirst (List.mem_of_getElem? (by simpa using hname))
        simpa [hne] using hfound

/-- The known members of an object under distinct known names are all of its members. -/
lemma knownMembers?_memberTrees {members : List (String × Json)}
    (hsub : ∀ member ∈ members, member.1 ∈ names) (hnodup : (members.map (·.1)).Nodup) :
    Tree.knownMembers? names (memberTrees members) =
      some (members.map fun member => (member.1, member.2.tree)) := by
  induction members with
  | nil => rfl
  | cons member members ih =>
    rw [List.map_cons, List.nodup_cons] at hnodup
    rw [List.forall_mem_cons] at hsub
    have hother : (members.map fun member => (member.1, member.2.tree)).any (·.1 == member.1) =
        false := by
      rw [List.any_eq_false]
      intro entry he hfound
      obtain ⟨other, hother, rfl⟩ := List.mem_map.1 he
      exact hnodup.1 (eq_of_beq hfound ▸ List.mem_map_of_mem hother)
    rw [memberTrees, Tree.knownMembers?, ih hsub.2 hnodup.2, Option.bind_some, if_pos hsub.1,
      hother]
    rfl

/-- The parts of a record that is written with some of its members. -/
def parts (members : List (Option (String × Json))) : List (String × Tree) :=
  (members.filterMap id).map fun member => (member.1, member.2.tree)

/-- The parts that are read are those of the members that are there. -/
lemma record?_objectOf (h : List.Forall₂ Under names members) (hnodup : names.Nodup) :
    (objectOf members).tree.record? names = some (parts members) := by
  have hsub := sublist_names h
  exact knownMembers?_memberTrees (fun member hm => hsub.subset (List.mem_map_of_mem hm))
    (hsub.nodup hnodup)

/-- What is read under a name is the member that belongs to it, or the default if it is left out. -/
lemma part?_parts {α : Type} (h : List.Forall₂ Under names members) (hnodup : names.Nodup) (i : ℕ)
    {name : String} {member : Option (String × Json)} (hname : names[i]? = some name)
    (hmember : members[i]? = some member) (missing : Option α) (read? : Tree → Option α) :
    Tree.part? (parts members) name missing read? =
      (member.map fun entry => read? entry.2.tree).getD missing := by
  have hfind := find?_filterMap h hnodup i hname hmember
  rw [Tree.part?, parts, List.find?_map]
  have hcomp : ((fun part : String × Tree => part.1 == name) ∘ fun member : String × Json =>
      (member.1, member.2.tree)) = fun member => member.1 == name := rfl
  rw [hcomp, hfind]
  cases member <;> rfl

/-! ### Single parts -/

/-- A value that is not written as null is read as present. -/
lemma optional?_of_ne_null {α : Type} {read? : Tree → Option α} {value : Tree} (h : value ≠ .null) :
    Tree.optional? read? value = (read? value).map some := by
  cases value with
  | null => exact absurd rfl h
  | _ => rfl

variable {i : ℕ} {name : String}

/-- A part that is always there is read from its value. -/
lemma part?_always {α : Type} {value : Json} (h : List.Forall₂ Under names members)
    (hnodup : names.Nodup) (hname : names[i]? = some name)
    (hmember : members[i]? = some (always name value)) (missing : Option α)
    (read? : Tree → Option α) : Tree.part? (parts members) name missing read? = read? value.tree :=
  part?_parts h hnodup i hname hmember missing read?

/-- A flag that is left out is read as one that is not set. -/
lemma part?_flag {value : Bool} (h : List.Forall₂ Under names members) (hnodup : names.Nodup)
    (hname : names[i]? = some name) (hmember : members[i]? = some (flag name value)) :
    Tree.part? (parts members) name (some false) Tree.bool? = some value := by
  rw [part?_parts h hnodup i hname hmember]
  cases value <;> rfl

/-- A value that is left out is read as none, and one that is there as its reader has it, if it is
not written as null. -/
lemma part?_present {α β : Type} {value : Option α} {write : α → Json} {back : α → β}
    {read? : Tree → Option β} (h : List.Forall₂ Under names members) (hnodup : names.Nodup)
    (hname : names[i]? = some name) (hmember : members[i]? = some (present name (value.map write)))
    (hnull : ∀ a, (write a).tree ≠ .null)
    (hread : ∀ a, value = some a → read? (write a).tree = some (back a)) :
    Tree.part? (parts members) name (some none) (Tree.optional? read?) = some (value.map back) := by
  rw [part?_parts h hnodup i hname hmember]
  cases value with
  | none => rfl
  | some a =>
    change Tree.optional? read? (write a).tree = _
    rw [optional?_of_ne_null (hnull a), hread a rfl]
    rfl

end Parts

/-! ## Values -/

/-- The numeral of a word is read as that word. -/
lemma word?_numeral (n : UInt64) : (numeral n.toNat).word? = some n := by
  have hvalue : Nat.ofDigitChars 10 (Nat.toDigits 10 n.toNat) 0 = n.toNat :=
    Nat.ofDigitChars_ten_toDigits
  simp [numeral, Numeral.word?, hvalue, n.toNat_lt_size]

/-- The members of an object that are read one by one. -/
lemma members?_memberTrees {α β : Type} {write : α → Json} {read? : Tree → Option β} {back : α → β}
    {entries : List (String × α)}
    (h : ∀ entry ∈ entries, read? (write entry.2).tree = some (back entry.2)) :
    Tree.members? read? (memberTrees (entries.map fun entry => (entry.1, write entry.2))) =
      some (entries.map fun entry => (entry.1, back entry.2)) := by
  induction entries with
  | nil => rfl
  | cons entry entries ih =>
    rw [List.forall_mem_cons] at h
    rw [List.map_cons, memberTrees, Tree.members?, h.1, Option.bind_some, ih h.2, Option.map_some,
      List.map_cons]

end ModelSchema.Json
