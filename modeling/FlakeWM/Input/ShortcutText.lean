import FlakeWM.Input.Shortcut

/-! The texts that are shortcuts.

A text is read from left to right, and what was read decides about the next part. In the
end only the parts count that are not empty, whatever their order: one names the keysym,
the others different modifiers. -/

set_option autoImplicit false

namespace FlakeWM.Input.Shortcut

/-- The text without its suffix, and whether it had one. -/
def withoutSuffix (text : List Char) : List Char × Bool :=
  match splitLast ':' text with
  | some (before, suffix) =>
    if equalsIgnoringCase (trim suffix) "no".toList then (trim before, true) else (text, false)
  | none => (text, false)

def filled (parts : List (List Char)) : List (List Char) := (parts.map trim).filter (!·.isEmpty)

def keys (parts : List (List Char)) : List (List Char) := parts.filter fun part => (modifierForName part).isNone

def modifiers (parts : List (List Char)) : List Modifiers := parts.filterMap modifierForName

def sum (modifiers : List Modifiers) : Modifiers := modifiers.foldr (· ||| ·) 0

section

variable (names : KeysymNames)

def lookup (part : List Char) : Keysym := names.toLower (names.fromName (String.ofList part))

/-- One part names the keysym, and the others are different modifiers. -/
def Spells (parts : List (List Char)) (noRepeat : Bool) (parsed : ParsedShortcut) : Prop :=
  ∃ key, keys parts = [key] ∧ lookup names key ≠ Keysym.noSymbol ∧ (modifiers parts).Nodup ∧
    parsed = ⟨sum (modifiers parts), lookup names key, noRepeat⟩

theorem has_named : ∀ entry ∈ namedModifiers, ∀ other ∈ namedModifiers,
    entry.2.has other.2 = (entry.2 == other.2) := by decide

theorem mem_named {part : List Char} {modifier : Modifiers} (named : modifierForName part = some modifier) :
    ∃ entry ∈ namedModifiers, entry.2 = modifier := by
  obtain ⟨entry, found, same⟩ := Option.map_eq_some_iff.mp named
  exact ⟨entry, List.mem_of_find?_eq_some found, same⟩

theorem has_or {part part' : List Char} {modifier other : Modifiers} (named : modifierForName part = some modifier)
    (named' : modifierForName part' = some other) (read : Modifiers) :
    (read ||| modifier).has other = false ↔ read.has other = false ∧ modifier ≠ other := by
  obtain ⟨entry, listed, rfl⟩ := mem_named named
  obtain ⟨entry', listed', rfl⟩ := mem_named named'
  have apart := has_named entry listed entry' listed'
  rw [← beq_eq_false_iff_ne, ← apart]
  simp only [Modifiers.has, bne_eq_false_iff_eq, BitVec.and_or_distrib_right]
  exact BitVec.or_eq_zero_iff

structure Adds (parts : List (List Char)) (before after : ParsedShortcut) : Prop where
  different : (modifiers parts).Nodup
  fresh : ∀ modifier ∈ modifiers parts, before.modifiers.has modifier = false
  sum : after.modifiers = before.modifiers ||| sum (modifiers parts)
  noRepeat : after.noRepeat = before.noRepeat
  key : keys parts = [] ∧ after.keysym = before.keysym ∨ before.keysym = Keysym.noSymbol ∧
    ∃ key, keys parts = [key] ∧ lookup names key ≠ Keysym.noSymbol ∧ after.keysym = lookup names key

theorem adds_modifier {part : List Char} {rest : List (List Char)} {modifier : Modifiers}
    (named : modifierForName part = some modifier) (before after : ParsedShortcut) :
    Adds names (part :: rest) before after ↔ before.modifiers.has modifier = false ∧
      Adds names rest { before with modifiers := before.modifiers ||| modifier } after := by
  have read : modifiers (part :: rest) = modifier :: modifiers rest := List.filterMap_cons_some named
  have same : keys (part :: rest) = keys rest := by simp [keys, named]
  have later : (∀ other ∈ modifiers rest, (before.modifiers ||| modifier).has other = false) ↔
      modifier ∉ modifiers rest ∧ ∀ other ∈ modifiers rest, before.modifiers.has other = false := by
    have each : ∀ other ∈ modifiers rest, ((before.modifiers ||| modifier).has other = false ↔
        before.modifiers.has other = false ∧ modifier ≠ other) := by
      intro other mem
      obtain ⟨_, _, named'⟩ := List.mem_filterMap.mp mem
      exact has_or named named' before.modifiers
    constructor
    · intro all
      exact ⟨fun mem => ((each _ mem).mp (all _ mem)).2 rfl, fun other mem => ((each _ mem).mp (all _ mem)).1⟩
    · rintro ⟨absent, all⟩ other mem
      exact (each _ mem).mpr ⟨all _ mem, fun same => absent (same ▸ mem)⟩
  constructor
  · rintro ⟨ne, fresh, total, flag, key⟩
    rw [read] at ne fresh total
    rw [same] at key
    have ⟨absent, ne⟩ := List.nodup_cons.mp ne
    refine ⟨fresh modifier (.head _), ne, later.mpr ⟨absent, fun other mem => fresh other (.tail _ mem)⟩, ?_, flag, key⟩
    rw [total, Shortcut.sum, List.foldr_cons, ← BitVec.or_assoc]
    rfl
  · rintro ⟨new, ne, fresh, total, flag, key⟩
    obtain ⟨absent, fresh⟩ := later.mp fresh
    refine ⟨?_, ?_, ?_, flag, ?_⟩
    · rw [read]
      exact List.nodup_cons.mpr ⟨absent, ne⟩
    · rw [read]
      exact List.forall_mem_cons.mpr ⟨new, fresh⟩
    · rw [read, total, Shortcut.sum, Shortcut.sum, List.foldr_cons, BitVec.or_assoc]
    · rw [same]
      exact key

theorem adds_key {part : List Char} {rest : List (List Char)} (unnamed : modifierForName part = none)
    (before after : ParsedShortcut) :
    Adds names (part :: rest) before after ↔ before.keysym = Keysym.noSymbol ∧
      lookup names part ≠ Keysym.noSymbol ∧ Adds names rest { before with keysym := lookup names part } after := by
  have same : modifiers (part :: rest) = modifiers rest := List.filterMap_cons_none unnamed
  have read : keys (part :: rest) = part :: keys rest := by simp [keys, unnamed]
  constructor
  · rintro ⟨ne, fresh, total, flag, key⟩
    rw [same] at ne fresh total
    rw [read] at key
    obtain ⟨missing, _⟩ | ⟨free, key, only, valid, taken⟩ := key
    · contradiction
    · obtain ⟨rfl, none⟩ := List.cons.inj only
      exact ⟨free, valid, ne, fresh, total, flag, .inl ⟨none, taken⟩⟩
  · rintro ⟨free, valid, ne, fresh, total, flag, ⟨none, taken⟩ | ⟨missing, _⟩⟩
    · refine ⟨same ▸ ne, same ▸ fresh, same ▸ total, flag, .inr ⟨free, part, ?_, valid, taken⟩⟩
      rw [read, none]
    · exact absurd missing valid

theorem parsePart_modifier {part : List Char} {modifier : Modifiers} (named : modifierForName part = some modifier)
    (read : ParsedShortcut) : parsePart names read part = if read.modifiers.has modifier then none
      else some { read with modifiers := read.modifiers ||| modifier } := by
  simp [parsePart, named]

theorem parsePart_key {part : List Char} (unnamed : modifierForName part = none) (read : ParsedShortcut) :
    parsePart names read part = if read.keysym = Keysym.noSymbol ∧ lookup names part ≠ Keysym.noSymbol then
      some { read with keysym := lookup names part } else none := by
  unfold parsePart lookup
  rw [unnamed]
  dsimp only
  split_ifs <;> simp_all

theorem foldlM_parsePart (parts : List (List Char)) (before after : ParsedShortcut) :
    parts.foldlM (parsePart names) before = some after ↔ Adds names parts before after := by
  induction parts generalizing before with
  | nil =>
    constructor
    · intro same
      obtain rfl := Option.some.inj same
      exact ⟨.nil, nofun, by simp [modifiers, Shortcut.sum], rfl, .inl ⟨rfl, rfl⟩⟩
    · rintro ⟨_, _, total, flag, ⟨_, same⟩ | ⟨_, _, missing, _⟩⟩
      · simp only [modifiers, Shortcut.sum, List.filterMap_nil, List.foldr_nil] at total
        cases before
        cases after
        simp_all
      · contradiction
  | cons part rest ih =>
    rw [List.foldlM_cons]
    cases named : modifierForName part with
    | some modifier =>
      rw [adds_modifier names named, ← ih, parsePart_modifier names named]
      cases before.modifiers.has modifier <;> simp
    | none =>
      rw [adds_key names named, ← ih, parsePart_key names named, ← and_assoc]
      split
      · rename_i taken
        simp [taken]
      · rename_i refused
        simp [refused]

theorem parseParts_eq (parts : List (List Char)) (last : List Char) (before : ParsedShortcut) :
    parseParts names before (parts ++ [last]) = if trim last = [] then none
      else (filled (parts ++ [last])).foldlM (parsePart names) before := by
  induction parts generalizing before with
  | nil =>
    rw [List.nil_append, parseParts]
    by_cases empty : trim last = []
    · simp [empty]
    · simp [empty, filled]
  | cons part rest ih =>
    have first : parseParts names before (part :: (rest ++ [last])) =
        if (trim part).isEmpty then parseParts names before (rest ++ [last])
        else (parsePart names before (trim part)).bind fun read => parseParts names read (rest ++ [last]) := by
      obtain ⟨next, others, more⟩ := List.exists_cons_of_ne_nil (List.concat_ne_nil last rest)
      rw [more, parseParts]
      simp
    rw [List.cons_append, first]
    by_cases empty : trim part = []
    · simp [empty, ih, filled]
    · by_cases ends : trim last = []
      · simp [empty, ih, ends]
      · simp [empty, ih, ends, filled]

/-- The last part is not empty. -/
def Ends (binding : List Char) : Prop := ∃ last ∈ (binding.splitOn '+').getLast?, trim last ≠ []

theorem parseBinding_iff (bd : List Char) (noRepeat : Bool) (ps : ParsedShortcut) :
    parseBinding names bd noRepeat = some ps ↔ Ends bd ∧ Spells names (filled (bd.splitOn '+')) noRepeat ps := by
  unfold parseBinding Ends
  by_cases empty : bd = []
  · subst empty
    simp [trim]
  · obtain nothing | ⟨parts, last, split⟩ := List.eq_nil_or_concat (bd.splitOn '+')
    · exact absurd nothing (List.splitOn_ne_nil _ _)
    · rw [List.concat_eq_append] at split
      rw [if_neg (by simpa using empty), split, parseParts_eq, List.getLast?_concat]
      by_cases ends : trim last = []
      · simp [ends]
      · rw [if_neg ends, Option.filter_eq_some_iff, foldlM_parsePart]
        simp only [Option.mem_def, Option.some.injEq, exists_eq_left', ends, ne_eq, not_false_eq_true, true_and]
        constructor
        · rintro ⟨⟨ne, _, total, flag, ⟨_, missing⟩ | ⟨_, key, only, valid, taken⟩⟩, keyed⟩
          · simp [missing] at keyed
          · refine ⟨key, only, valid, ne, ?_⟩
            cases ps
            simp_all
        · rintro ⟨key, only, valid, ne, rfl⟩
          refine ⟨⟨ne, ?_, by simp, rfl, .inr ⟨rfl, key, only, valid, rfl⟩⟩, by simpa using valid⟩
          simp [Modifiers.has]

theorem mem_trim {char : Char} {tx : List Char} (mem : char ∈ tx) (solid : isSpace char = false) : char ∈ trim tx := by
  have kept : ∀ {tx : List Char}, char ∈ tx → char ∈ tx.dropWhile isSpace := by
    intro tx mem
    rw [← List.takeWhile_append_dropWhile (p := isSpace) (l := tx), List.mem_append] at mem
    rcases mem with blank | mem
    · exact absurd (List.mem_takeWhile_imp blank) (by simp [solid])
    · exact mem
  rw [trim, List.rdropWhile, List.mem_reverse]
  exact kept (List.mem_reverse.mpr (kept mem))

theorem mem_of_splitLast {separator : Char} {tx : List Char} {parts : List Char × List Char}
    (found : splitLast separator tx = some parts) : separator ∈ tx := by
  by_contra absent
  rw [splitLast_eq_none absent] at found
  contradiction

theorem unnamed_of_colon {part : List Char} (colon : ':' ∈ part) : modifierForName part = none := by
  rw [modifierForName, Option.map_eq_none_iff, List.find?_eq_none]
  intro entry listed equal
  have spelled : ∀ entry ∈ namedModifiers, ':' ∉ entry.1.toList.map Char.toLower := by decide
  apply spelled entry listed
  rw [← beq_iff_eq.mp equal]
  exact List.mem_map.mpr ⟨':', colon, rfl⟩

theorem not_spells_of_colon {bd : List Char} (plain : ∀ part, ':' ∈ part → lookup names part = Keysym.noSymbol)
    (colon : ':' ∈ bd) (noRepeat : Bool) (ps : ParsedShortcut) :
    ¬ Spells names (filled (bd.splitOn '+')) noRepeat ps := by
  rintro ⟨key, only, valid, _⟩
  have joined : ['+'].intercalate (bd.splitOn '+') = bd := List.intercalate_splitOn '+'
  rw [← joined] at colon
  rcases mem_intercalate colon with plus | ⟨part, listed, inside⟩
  · exact absurd plus (by decide)
  · have colon : ':' ∈ trim part := mem_trim inside rfl
    have mem : trim part ∈ keys (filled (bd.splitOn '+')) := by
      rw [keys, filled, List.mem_filter, List.mem_filter]
      refine ⟨⟨List.mem_map_of_mem listed, ?_⟩, by simp [unnamed_of_colon colon]⟩
      simpa using List.ne_nil_of_mem colon
    rw [only, List.mem_singleton] at mem
    exact valid (plain key (mem ▸ colon))

theorem Spells.perm {parts others : List (List Char)} {noRepeat : Bool} {ps : ParsedShortcut}
    (spells : Spells names parts noRepeat ps) (same : others.Perm parts) : Spells names others noRepeat ps := by
  obtain ⟨key, only, valid, ne, rfl⟩ := spells
  have total : sum (modifiers others) = sum (modifiers parts) := by
    have : @LeftCommutative Modifiers Modifiers (· ||| ·) := ⟨fun first second rest => by
      rw [← BitVec.or_assoc, BitVec.or_comm first, BitVec.or_assoc]⟩
    exact (same.filterMap _).foldr_eq 0
  refine ⟨key, ?_, valid, (same.filterMap _).nodup_iff.mpr ne, by rw [total]⟩
  have permuted : (keys others).Perm (keys parts) := same.filter _
  rw [only] at permuted
  exact List.perm_singleton.mp permuted

/-- A text is a shortcut exactly if its parts spell one, where no keysym has a name with a
colon. What it is does not depend on the order of the parts. -/
theorem parseShortcut_iff (plain : ∀ part, ':' ∈ part → lookup names part = Keysym.noSymbol) (shortcut : String)
    (parsed : ParsedShortcut) :
    let text := withoutSuffix (trim shortcut.toList)
    (parseShortcut names shortcut = some parsed ↔
        Ends text.1 ∧ Spells names (filled (text.1.splitOn '+')) text.2 parsed) ∧
      ∀ other : String, Ends (withoutSuffix (trim other.toList)).1 → (withoutSuffix (trim other.toList)).2 = text.2 →
        (filled ((withoutSuffix (trim other.toList)).1.splitOn '+')).Perm (filled (text.1.splitOn '+')) →
        parseShortcut names shortcut = some parsed → parseShortcut names other = some parsed := by
  have exact : ∀ text : String, parseShortcut names text = some parsed ↔
      Ends (withoutSuffix (trim text.toList)).1 ∧
        Spells names (filled ((withoutSuffix (trim text.toList)).1.splitOn '+')) (withoutSuffix (trim text.toList)).2
          parsed := by
    intro text
    unfold parseShortcut withoutSuffix
    dsimp only
    cases found : splitLast ':' (trim text.toList) with
    | none => exact parseBinding_iff names _ _ _
    | some split =>
      dsimp only
      split
      · exact parseBinding_iff names _ _ _
      · exact iff_of_false (by simp) fun spelled => not_spells_of_colon names plain (mem_of_splitLast found) _ _ spelled.2
  dsimp only
  refine ⟨exact shortcut, fun other ends suffix same read => ?_⟩
  have spelled := ((exact shortcut).mp read).2
  refine (exact other).mpr ⟨ends, ?_⟩
  rw [suffix]
  exact spelled.perm names same

end

/-- A library with one keysym. -/
def oneName (name : String) : KeysymNames where
  toLower := id
  name := fun _ => ""
  fromName := fun text => if text = name then 104 else 0
  fromName_name := fun _ named => absurd rfl named
  name_word := fun _ named => absurd rfl named

theorem parseShortcut_iff_doubled :
    parseShortcut (oneName "h") "Ctrl++Win+h : No" = some ⟨68, 104, true⟩ := by
  refine ((parseShortcut_iff (oneName "h") ?_ _ _).1).mpr ⟨⟨"h".toList, by decide, by decide⟩, "h".toList, ?_, ?_, ?_, ?_⟩
  · intro part colon
    refine if_neg fun same => ?_
    rw [String.ofList_eq.mp same] at colon
    exact absurd colon (by decide)
  all_goals decide

/-- A colon is always taken for that of the suffix. -/
theorem colon_refused :
    parseShortcut (oneName "a:b") "a:b" = none ∧
      Spells (oneName "a:b") (filled ((withoutSuffix "a:b".toList).1.splitOn '+')) false ⟨0, 104, false⟩ :=
  ⟨by decide, "a:b".toList, by decide, by decide, by decide, by decide⟩

end FlakeWM.Input.Shortcut
