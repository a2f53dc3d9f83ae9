import Mathlib.Data.List.Basic

/-! The first item of a list that matches.

It is looked up, changed or removed. Where the item found is one of those that a
filter keeps, the same happens to the filtered list; where it is not, the
filtered list stays as it is. -/

set_option autoImplicit false

namespace FirstMatch

variable {α : Type}

/-- Change the first item that matches. -/
def update (hit : α → Bool) (change : α → α) : List α → List α
  | [] => []
  | item :: rest => if hit item then change item :: rest else item :: update hit change rest

section

variable {hit own : α → Bool} {f : α → α} {items before after : List α} {item : α}

theorem length_filter_le_one_iff :
    (items.filter hit).length ≤ 1 ↔ items.Pairwise fun first second => ¬ (hit first = true ∧ hit second = true) := by
  induction items with
  | nil => simp
  | cons item rest ih =>
    rw [List.pairwise_cons, ← ih]
    by_cases matched : hit item = true
    · rw [List.filter_cons_of_pos matched, List.length_cons]
      constructor
      · intro short
        have none : rest.filter hit = [] := List.eq_nil_of_length_eq_zero (by omega)
        refine ⟨?_, by simp [none]⟩
        rintro other mem ⟨_, second⟩
        exact List.filter_eq_nil_iff.mp none other mem second
      · rintro ⟨alone, _⟩
        have none : rest.filter hit = [] :=
          List.filter_eq_nil_iff.mpr fun other mem second => alone other mem ⟨matched, second⟩
        simp [none]
    · rw [List.filter_cons_of_neg matched]
      constructor
      · intro short
        exact ⟨fun other _ both => matched both.1, short⟩
      · exact And.right

theorem find?_perm (one : (items.filter hit).length ≤ 1) {others : List α} (same : others.Perm items) :
    others.find? hit = items.find? hit := by
  have filtered := same.filter hit
  rw [← List.head?_filter, ← List.head?_filter]
  cases kept : items.filter hit with
  | nil =>
    rw [kept] at filtered
    rw [filtered.eq_nil]
  | cons item rest =>
    have last : rest = [] := List.eq_nil_of_length_eq_zero (by rw [kept, List.length_cons] at one; omega)
    rw [kept, last] at filtered
    rw [last, List.perm_singleton.mp filtered]

theorem cases_find? (hit : α → Bool) (items : List α) :
    items.find? hit = none ∨ ∃ before item after, items = before ++ item :: after ∧
      (∀ other ∈ before, hit other = false) ∧ hit item = true ∧ items.find? hit = some item := by
  cases found : items.find? hit with
  | none => exact .inl rfl
  | some item =>
    obtain ⟨matched, before, after, split, none⟩ := List.find?_eq_some_iff_append.mp found
    exact .inr ⟨before, item, after, split, fun other mem => by simpa using none other mem, matched, rfl⟩

theorem update_of_none (none : items.find? hit = none) : update hit f items = items := by
  induction items with
  | nil => rfl
  | cons item rest ih =>
    have plain : ∀ other ∈ item :: rest, ¬ hit other = true := List.find?_eq_none.mp none
    have later := List.find?_eq_none.mpr fun other mem => plain other (List.mem_cons_of_mem item mem)
    rw [update, if_neg (plain item List.mem_cons_self), ih later]

theorem update_split (none : ∀ other ∈ before, hit other = false) (matched : hit item = true) :
    update hit f (before ++ item :: after) = before ++ f item :: after := by
  induction before with
  | nil => simp [update, matched]
  | cons first rest ih =>
    have plain := none first (.head _)
    rw [List.cons_append, update, if_neg (by simp [plain]), ih fun other mem => none other (.tail _ mem)]
    rfl

theorem eraseP_split (none : ∀ other ∈ before, hit other = false) (matched : hit item = true) :
    (before ++ item :: after).eraseP hit = before ++ after := by
  rw [List.eraseP_append_right _ fun other mem => by simp [none other mem], List.eraseP_cons_of_pos matched]

theorem eraseP_of_none (none : items.find? hit = none) : items.eraseP hit = items :=
  List.eraseP_of_forall_not (List.find?_eq_none.mp none)

theorem find?_filter_of_none (absent : items.find? hit = none) : (items.filter own).find? hit = none := by
  rw [List.find?_eq_none] at absent ⊢
  exact fun other mem => absent other (List.mem_of_mem_filter mem)

theorem find?_filter (kept : ∀ item, items.find? hit = some item → own item = true) :
    (items.filter own).find? hit = items.find? hit := by
  rcases cases_find? hit items with none | ⟨before, item, after, rfl, none, matched, found⟩
  · rw [none, find?_filter_of_none none]
  · rw [found, List.filter_append, List.filter_cons_of_pos (kept item found), List.find?_append,
      List.find?_eq_none.mpr fun other mem => by simp [none other (List.mem_of_mem_filter mem)]]
    simp [matched]

theorem filter_eraseP (kept : ∀ item, items.find? hit = some item → own item = true) :
    (items.eraseP hit).filter own = (items.filter own).eraseP hit := by
  rcases cases_find? hit items with none | ⟨before, item, after, rfl, none, matched, found⟩
  · rw [eraseP_of_none none, eraseP_of_none (find?_filter_of_none none)]
  · rw [eraseP_split none matched, List.filter_append, List.filter_append, List.filter_cons_of_pos (kept item found),
      eraseP_split (fun other mem => none other (List.mem_of_mem_filter mem)) matched]

theorem filter_update (same : ∀ item, own (f item) = own item)
    (kept : ∀ item, items.find? hit = some item → own item = true) :
    (update hit f items).filter own = update hit f (items.filter own) := by
  rcases cases_find? hit items with none | ⟨before, item, after, rfl, none, matched, found⟩
  · rw [update_of_none none, update_of_none (find?_filter_of_none none)]
  · rw [update_split none matched, List.filter_append, List.filter_append, List.filter_cons_of_pos (kept item found),
      List.filter_cons_of_pos (by rw [same, kept item found]),
      update_split (fun other mem => none other (List.mem_of_mem_filter mem)) matched]

theorem filter_eraseP_of_not (dropped : ∀ item, items.find? hit = some item → own item = false) :
    (items.eraseP hit).filter own = items.filter own := by
  rcases cases_find? hit items with none | ⟨before, item, after, rfl, none, matched, found⟩
  · rw [eraseP_of_none none]
  · rw [eraseP_split none matched, List.filter_append, List.filter_append,
      List.filter_cons_of_neg (by simp [dropped item found])]

theorem filter_update_of_not (same : ∀ item, own (f item) = own item)
    (dropped : ∀ item, items.find? hit = some item → own item = false) :
    (update hit f items).filter own = items.filter own := by
  rcases cases_find? hit items with none | ⟨before, item, after, rfl, none, matched, found⟩
  · rw [update_of_none none]
  · rw [update_split none matched, List.filter_append, List.filter_append,
      List.filter_cons_of_neg (by simp [same, dropped item found]),
      List.filter_cons_of_neg (by simp [dropped item found])]

theorem find?_update (same : ∀ item, hit (f item) = hit item) :
    (update hit f items).find? hit = (items.find? hit).map f := by
  rcases cases_find? hit items with none | ⟨before, item, after, rfl, none, matched, found⟩
  · rw [update_of_none none, none]
    rfl
  · rw [update_split none matched, found, List.find?_append,
      List.find?_eq_none.mpr fun other mem => by simp [none other mem]]
    simp [same, matched]

section

variable {other : α → Bool} (apart : ∀ item, hit item = true → other item = false)

include apart

theorem find?_update_of_not (same : ∀ item, other (f item) = other item) :
    (update hit f items).find? other = items.find? other := by
  rcases cases_find? hit items with none | ⟨before, item, after, rfl, none, matched, found⟩
  · rw [update_of_none none]
  · rw [update_split none matched, List.find?_append, List.find?_append]
    simp [same, apart item matched]

theorem find?_eraseP_of_not : (items.eraseP hit).find? other = items.find? other := by
  rcases cases_find? hit items with none | ⟨before, item, after, rfl, none, matched, found⟩
  · rw [eraseP_of_none none]
  · rw [eraseP_split none matched, List.find?_append, List.find?_append]
    simp [apart item matched]

end

theorem mem_update (mem : item ∈ update hit f items) : ∃ old ∈ items, item = old ∨ item = f old := by
  rcases cases_find? hit items with none | ⟨before, found, after, rfl, none, matched, _⟩
  · rw [update_of_none none] at mem
    exact ⟨item, mem, .inl rfl⟩
  · rw [update_split none matched] at mem
    simp only [List.mem_append, List.mem_cons] at mem
    rcases mem with first | rfl | last
    · exact ⟨item, by simp [first], .inl rfl⟩
    · exact ⟨found, by simp, .inr rfl⟩
    · exact ⟨item, by simp [last], .inl rfl⟩

theorem map_update {β : Type} {key : α → β} (same : ∀ item, key (f item) = key item) :
    (update hit f items).map key = items.map key := by
  rcases cases_find? hit items with none | ⟨before, item, after, rfl, none, matched, found⟩
  · rw [update_of_none none]
  · simp [update_split none matched, same]

end

end FirstMatch
