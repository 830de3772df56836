set_option autoImplicit false

/-!
# Named entries in order

A collection of entries under distinct names that keeps the order in which the names came up. An
entry under a name that is already there takes the place of the earlier one.

## Main definitions

* `Entries` — entries in order, with `Entries.names`, `Entries.get?` and `Entries.insert`.
* `Entries.ofList` — the entries of a list in which names may occur more than once.

## Main results

* `Entries.names_insert` — a new name goes to the end, and a known one changes nothing.
* `Entries.get?_insert` — what is found after an insertion.
* `Entries.nodup_names_ofList`, `Entries.mem_of_mem_ofList` — the names of such a collection are
  distinct, and its entries are from the list.
* `Entries.ofList_of_nodup` — a list in which the names are distinct is such a collection itself.
-/

namespace ModelSchema

/-- Entries under names, in order. -/
abbrev Entries (α : Type) := List (String × α)

namespace Entries

variable {α : Type}

/-- The names of the entries, in order. -/
def names (es : Entries α) : List String :=
  es.map (·.1)

/-- No entries have no names. -/
@[simp]
theorem names_nil : names ([] : Entries α) = [] := rfl

/-- The names of entries begin with that of the first one. -/
@[simp]
theorem names_cons (e : String × α) (es : Entries α) : names (e :: es) = e.1 :: names es := rfl

/-- The entry under a name. -/
def get? : Entries α → String → Option α
  | [], _ => none
  | (m, b) :: es, n => if m = n then some b else get? es n

/-- The entries with `a` under the name `n`: in place of the entry that is there, or else at the
end. -/
def insert : Entries α → String → α → Entries α
  | [], n, a => [(n, a)]
  | (m, b) :: es, n, a => if m = n then (m, a) :: es else (m, b) :: insert es n a

/-- The entries of a list, put in one after the other. -/
def ofList (list : List (String × α)) : Entries α :=
  list.foldl (fun es e => insert es e.1 e.2) []

/-- A new name goes to the end, and a known one changes nothing. -/
theorem names_insert (es : Entries α) (n : String) (a : α) :
    names (insert es n a) = if n ∈ names es then names es else names es ++ [n] := by
  induction es with
  | nil => simp [insert]
  | cons e es ih =>
    obtain ⟨m, b⟩ := e
    unfold insert
    by_cases h : m = n
    · simp [h]
    · have h' : n ≠ m := fun e => h e.symm
      by_cases hm : n ∈ names es <;> simp [h, h', ih, hm]

/-- An insertion is found under its name, and the other entries stay. -/
theorem get?_insert (es : Entries α) (n k : String) (a : α) :
    get? (insert es n a) k = if n = k then some a else get? es k := by
  induction es with
  | nil => simp [insert, get?]
  | cons e es ih =>
    obtain ⟨m, b⟩ := e
    unfold insert
    by_cases h : m = n
    · subst h
      by_cases hk : m = k <;> simp [get?, hk]
    · by_cases hk : m = k
      · have hn : n ≠ k := fun e => h (hk.trans e.symm)
        rw [if_neg h, if_neg hn]
        simp [get?, hk]
      · simp [h, get?, hk, ih]

/-- Putting in an entry leaves the names distinct. -/
theorem nodup_names_insert {es : Entries α} (h : (names es).Nodup) (n : String) (a : α) :
    (names (insert es n a)).Nodup := by
  rw [names_insert]
  split
  · exact h
  · next hn =>
    rw [List.nodup_append]
    refine ⟨h, by simp, fun x hx y hy => ?_⟩
    rw [List.mem_singleton] at hy
    rintro rfl
    exact hn (hy ▸ hx)

/-- The names of a collection are distinct. -/
theorem nodup_names_ofList (list : List (String × α)) : (names (ofList list)).Nodup := by
  unfold ofList
  suffices h : ∀ es : Entries α, (names es).Nodup →
      (names (list.foldl (fun es e => insert es e.1 e.2) es)).Nodup from h [] (by simp [names])
  induction list with
  | nil => exact fun es h => h
  | cons e list ih => exact fun es h => ih _ (nodup_names_insert h _ _)

/-- After an insertion there is nothing but what was inserted and what was there. -/
theorem mem_of_mem_insert {es : Entries α} {n : String} {a : α} {e : String × α}
    (h : e ∈ insert es n a) : e = (n, a) ∨ e ∈ es := by
  induction es with
  | nil => exact .inl (List.mem_singleton.1 h)
  | cons first es ih =>
    obtain ⟨m, b⟩ := first
    unfold insert at h
    split at h
    · next hm =>
      subst hm
      exact (List.mem_cons.1 h).imp_right (List.mem_cons_of_mem _)
    · rcases List.mem_cons.1 h with rfl | h
      · exact .inr List.mem_cons_self
      · exact (ih h).imp_right (List.mem_cons_of_mem _)

/-- A collection has no entries but those that were put in. -/
theorem mem_of_mem_ofList {list : List (String × α)} {e : String × α} (h : e ∈ ofList list) :
    e ∈ list := by
  unfold ofList at h
  suffices hfold : ∀ es : Entries α,
      e ∈ list.foldl (fun es e => insert es e.1 e.2) es → e ∈ es ∨ e ∈ list from
    (hfold [] h).resolve_left (by simp)
  clear h
  induction list with
  | nil => exact fun es h => .inl h
  | cons first list ih =>
    intro es h
    rcases ih _ h with h | h
    · rcases mem_of_mem_insert h with rfl | h
      · exact .inr List.mem_cons_self
      · exact .inl h
    · exact .inr (List.mem_cons_of_mem _ h)

/-- An entry under a new name goes to the end. -/
theorem insert_of_not_mem {es : Entries α} {n : String} (a : α) (h : n ∉ names es) :
    insert es n a = es ++ [(n, a)] := by
  induction es with
  | nil => rfl
  | cons e es ih =>
    rw [names_cons, List.mem_cons, not_or] at h
    rw [insert, if_neg (Ne.symm h.1), ih h.2, List.cons_append]

/-- A list in which the names are distinct is the collection of its entries. -/
theorem ofList_of_nodup {es : Entries α} (h : (names es).Nodup) : ofList es = es := by
  suffices hfold : ∀ done : Entries α, (names (done ++ es)).Nodup →
      es.foldl (fun es e => insert es e.1 e.2) done = done ++ es from hfold [] h
  clear h
  induction es with
  | nil => simp
  | cons e es ih =>
    intro done h
    have hnew : e.1 ∉ names done := by
      rw [names, List.map_append, List.nodup_append] at h
      exact fun hmem => h.2.2 e.1 hmem e.1 List.mem_cons_self rfl
    have hstep : done ++ e :: es = (done ++ [e]) ++ es := by simp
    rw [hstep] at h
    rw [List.foldl_cons, insert_of_not_mem _ hnew, ih _ h, hstep]

end Entries

end ModelSchema
