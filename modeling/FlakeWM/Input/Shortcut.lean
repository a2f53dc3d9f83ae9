import FlakeWM.Input.KeyBinding
import Mathlib

/-! Shortcut texts, from a captured key to the binding it is registered for.

A captured key is spelled with the names of its modifiers and the name of its
lower-case keysym. Registering the text looks those names up again, modifier names
before keysym names, and a press is compared with the result after a case folding
of its own: the way back is closed where the three agree on the keysym. -/

set_option autoImplicit false

namespace FlakeWM.Input

namespace Shortcut

def wordChar (char : Char) : Bool := char.isAlphanum || char == '_'

structure Word (text : List Char) : Prop where
  filled : text ≠ []
  chars : ∀ char ∈ text, wordChar char = true

instance (text : List Char) : Decidable (Word text) :=
  decidable_of_iff (text ≠ [] ∧ text.all wordChar = true)
    ⟨fun ⟨filled, chars⟩ => ⟨filled, List.all_eq_true.mp chars⟩,
      fun ⟨filled, chars⟩ => ⟨filled, List.all_eq_true.mpr chars⟩⟩

end Shortcut

/-- The keysym library with its names. `fromName` ignores case and is zero for what is
no name; a name parses back and is a word. -/
structure KeysymNames extends Xkb where
  fromName : String → Keysym
  fromName_name : ∀ keysym, name keysym ≠ "" → fromName (name keysym) = keysym
  name_word : ∀ keysym, name keysym ≠ "" → Shortcut.Word (name keysym).toList

def Keysym.noSymbol : Keysym := 0

namespace Shortcut

def isSpace (char : Char) : Bool := char == ' ' || (9 ≤ char.toNat && char.toNat ≤ 13)

def trim (text : List Char) : List Char := (text.dropWhile isSpace).rdropWhile isSpace

def equalsIgnoringCase (left right : List Char) : Bool := left.map Char.toLower == right.map Char.toLower

def namedModifiers : List (String × Modifiers) :=
  [("shift", .shift), ("caps", .caps), ("lock", .caps), ("ctrl", .ctrl), ("control", .ctrl), ("alt", .alt),
    ("mod1", .alt), ("num", .mod2), ("mod2", .mod2), ("mod3", .mod3), ("win", .logo), ("logo", .logo),
    ("super", .logo), ("meta", .logo), ("mod4", .logo), ("mod5", .mod5), ("iso_level3_shift", .mod5)]

def modifierForName (name : List Char) : Option Modifiers :=
  (namedModifiers.find? fun entry => equalsIgnoringCase name entry.1.toList).map Prod.snd

def splitLast (separator : Char) : List Char → Option (List Char × List Char)
  | [] => none
  | char :: rest =>
    match splitLast separator rest with
    | some (before, after) => some (char :: before, after)
    | none => if char = separator then some ([], rest) else none

section

variable (names : KeysymNames)

def parsePart (parsed : ParsedShortcut) (part : List Char) : Option ParsedShortcut :=
  match modifierForName part with
  | some modifier =>
    if parsed.modifiers.has modifier then none
    else some { parsed with modifiers := parsed.modifiers ||| modifier }
  | none =>
    if parsed.keysym ≠ Keysym.noSymbol then none
    else
      let keysym := names.toLower (names.fromName (String.ofList part))
      if keysym = Keysym.noSymbol then none else some { parsed with keysym }

def parseParts (parsed : ParsedShortcut) : List (List Char) → Option ParsedShortcut
  | [] => some parsed
  | [part] => if (trim part).isEmpty then none else parsePart names parsed (trim part)
  | part :: rest =>
    if (trim part).isEmpty then parseParts parsed rest
    else (parsePart names parsed (trim part)).bind fun parsed => parseParts parsed rest

def parseBinding (binding : List Char) (noRepeat : Bool) : Option ParsedShortcut :=
  if binding.isEmpty then none
  else (parseParts names ⟨0, Keysym.noSymbol, noRepeat⟩ (binding.splitOn '+')).filter
    (·.keysym != Keysym.noSymbol)

def parseShortcut (shortcut : String) : Option ParsedShortcut :=
  let binding := trim shortcut.toList
  match splitLast ':' binding with
  | none => parseBinding names binding false
  | some (before, suffix) =>
    if equalsIgnoringCase (trim suffix) "no".toList then parseBinding names (trim before) true else none

end

theorem wordChar_solid {char : Char} (word : wordChar char = true) : isSpace char = false := by
  have number : char.toNat = char.val.toNat := rfl
  by_contra space
  simp only [isSpace, Bool.not_eq_false, Bool.or_eq_true, Bool.and_eq_true, beq_iff_eq, decide_eq_true_eq] at space
  rcases space with rfl | control
  · exact absurd word (by decide)
  · simp only [wordChar, Char.isAlphanum, Char.isAlpha, Char.isUpper, Char.isLower, Char.isDigit, Bool.or_eq_true,
      Bool.and_eq_true, decide_eq_true_eq, beq_iff_eq, UInt32.le_iff_toNat_le, ge_iff_le] at word
    rcases word with letter | rfl
    · simp only [Char.reduceVal, UInt32.reduceToNat] at letter
      omega
    · exact absurd control (by decide)

variable {separator : Char} {text : List Char} {entries : List (Modifiers × String)}

theorem trim_eq_self (solid : ∀ char ∈ text, isSpace char = false) : trim text = text := by
  have front : text.dropWhile isSpace = text := by
    cases text with
    | nil => rfl
    | cons char => exact List.dropWhile_cons_of_neg (by simp [solid char (.head _)])
  rw [trim, front, List.rdropWhile_eq_self_iff]
  intro filled
  simp [solid _ (List.getLast_mem filled)]

theorem Word.trim_eq (word : Word text) : trim text = text :=
  trim_eq_self fun char mem => wordChar_solid (word.chars char mem)

theorem Word.not_mem (word : Word text) {char : Char} (separator : wordChar char = false) : char ∉ text := by
  intro mem
  exact absurd (word.chars char mem) (by simp [separator])

theorem splitLast_eq_none (absent : separator ∉ text) : splitLast separator text = none := by
  induction text with
  | nil => rfl
  | cons char rest ih =>
    rw [List.mem_cons, not_or] at absent
    rw [splitLast, ih absent.2]
    simp [Ne.symm absent.1]

theorem mem_intercalate {char : Char} {parts : List (List Char)} (mem : char ∈ [separator].intercalate parts) :
    char = separator ∨ ∃ part ∈ parts, char ∈ part := by
  induction parts with
  | nil => simp at mem
  | cons part rest ih =>
    cases rest with
    | nil => exact .inr ⟨part, .head _, by simpa using mem⟩
    | cons =>
      rw [List.intercalate_cons_cons, List.mem_append, List.mem_append, List.mem_singleton] at mem
      rcases mem with (here | same) | later
      · exact .inr ⟨part, .head _, here⟩
      · exact .inl same
      · rcases ih later with same | ⟨other, listed, inside⟩
        · exact .inl same
        · exact .inr ⟨other, .tail _ listed, inside⟩

def union (entries : List (Modifiers × String)) : Modifiers := entries.foldr (fun entry rest => entry.1 ||| rest) 0

def OneBit (modifier : Modifiers) : Prop := ∃ index, modifier = BitVec.twoPow 32 index

theorem OneBit.and_eq {modifier : Modifiers} (bit : OneBit modifier) (mods : Modifiers) :
    mods &&& modifier = if mods.has modifier then modifier else 0 := by
  obtain ⟨i, rfl⟩ := bit
  rw [Modifiers.has, BitVec.and_twoPow]
  cases mods.getLsbD i <;> simp

theorem union_filter (bits : ∀ en ∈ entries, OneBit en.1) (mods : Modifiers) :
    union (entries.filter fun en => mods.has en.1) = mods &&& union entries := by
  induction entries with
  | nil => simp [union]
  | cons en rest ih =>
    have later := ih fun other mem => bits other (.tail _ mem)
    have here := (bits en (.head _)).and_eq mods
    have spread : mods &&& union (en :: rest) = (mods &&& en.1) ||| (mods &&& union rest) := by
      simp [union, BitVec.and_or_distrib_left]
    rw [spread, here, ← later]
    cases has : mods.has en.1 with
    | true => simp [union, has]
    | false => simp [has]

section

variable (names : KeysymNames)

theorem parseParts_cons {part : List Char} {rest : List (List Char)} (word : Word part) (more : rest ≠ [])
    (ps : ParsedShortcut) :
    parseParts names ps (part :: rest) = (parsePart names ps part).bind fun ps => parseParts names ps rest := by
  obtain ⟨next, others, rfl⟩ := List.exists_cons_of_ne_nil more
  rw [parseParts, word.trim_eq, if_neg (by simpa using word.filled)]
  exact nofun

theorem parseParts_last {part : List Char} (word : Word part) (ps : ParsedShortcut) :
    parseParts names ps [part] = parsePart names ps part := by
  rw [parseParts, word.trim_eq, if_neg (by simpa using word.filled)]

theorem parseParts_modifiers (spelled : ∀ en ∈ entries, Word en.2.toList ∧ modifierForName en.2.toList = some en.1)
    (ne : entries.Pairwise fun en other => en.1 &&& other.1 = 0) (ps : ParsedShortcut)
    (free : ∀ en ∈ entries, ps.modifiers &&& en.1 = 0) (last : List Char) :
    parseParts names ps (entries.map (·.2.toList) ++ [last]) =
      parseParts names { ps with modifiers := ps.modifiers ||| union entries } [last] := by
  induction entries generalizing ps with
  | nil => simp [union]
  | cons en rest ih =>
    obtain ⟨word, named⟩ := spelled en (.head _)
    obtain ⟨apart, later⟩ := List.pairwise_cons.mp ne
    have added : parsePart names ps en.2.toList = some { ps with modifiers := ps.modifiers ||| en.1 } := by
      simp [parsePart, named, Modifiers.has, free en (.head _)]
    rw [List.map_cons, List.cons_append, parseParts_cons names word (by simp), added, Option.bind_some,
      ih (fun other mem => spelled other (.tail _ mem)) later]
    · simp [union, BitVec.or_assoc]
    · intro other mem
      have before := free other (.tail _ mem)
      simp [BitVec.and_or_distrib_right, before, apart other mem]

theorem parseShortcut_join {text : String} {parts : List (List Char)} (joined : text.toList = ['+'].intercalate parts)
    (words : ∀ part ∈ parts, Word part) (filled : parts ≠ []) :
    parseShortcut names text =
      (parseParts names ⟨0, Keysym.noSymbol, false⟩ parts).filter (·.keysym != Keysym.noSymbol) := by
  have chars : ∀ char ∈ ['+'].intercalate parts, char = '+' ∨ wordChar char = true := by
    intro char mem
    rcases mem_intercalate mem with plus | ⟨part, listed, inside⟩
    · exact .inl plus
    · exact .inr ((words part listed).chars char inside)
  have solid : ∀ char ∈ ['+'].intercalate parts, isSpace char = false := by
    intro char mem
    rcases chars char mem with rfl | word
    · rfl
    · exact wordChar_solid word
  have repeats : ':' ∉ ['+'].intercalate parts := by
    intro mem
    rcases chars ':' mem with plus | word
    · exact absurd plus (by decide)
    · exact absurd word (by decide)
  have parted : (['+'].intercalate parts).splitOn '+' = parts :=
    List.splitOn_intercalate '+' (fun part listed => (words part listed).not_mem rfl) filled
  have nonempty : (['+'].intercalate parts).isEmpty = false := by
    by_contra empty
    rw [Bool.not_eq_false, List.isEmpty_iff] at empty
    rw [empty] at parted
    exact (words [] (by simp [← parted])).filled rfl
  simp only [parseShortcut, joined, trim_eq_self solid, splitLast_eq_none repeats, parseBinding, nonempty, parted]
  rfl

open KeyBindingManager in
theorem modifierNames_spelled : ∀ en ∈ modifierNames, Word en.2.toList ∧ modifierForName en.2.toList = some en.1 := by
  decide

open KeyBindingManager in
theorem modifierNames_bits : ∀ en ∈ modifierNames, OneBit en.1 := by
  simp only [modifierNames, List.forall_mem_cons]
  exact ⟨⟨0, rfl⟩, ⟨1, rfl⟩, ⟨2, rfl⟩, ⟨3, rfl⟩, ⟨4, rfl⟩, ⟨5, rfl⟩, ⟨6, rfl⟩, ⟨7, rfl⟩, nofun⟩

def known (modifiers : Modifiers) : Modifiers := modifiers &&& union KeyBindingManager.modifierNames

def reads (keysym : Keysym) : Option Keysym :=
  if (modifierForName (names.name keysym).toList).isSome || names.toLower keysym == Keysym.noSymbol then none
  else some (names.toLower keysym)

theorem parseParts_name {sym : Keysym} (named : names.name sym ≠ "") (mods : Modifiers) :
    (parseParts names ⟨mods, Keysym.noSymbol, false⟩ [(names.name sym).toList]).filter (·.keysym != Keysym.noSymbol) =
      (reads names sym).map fun sym => ⟨mods, sym, false⟩ := by
  rw [parseParts_last names (names.name_word sym named)]
  unfold parsePart reads
  cases modifier : modifierForName (names.name sym).toList with
  | some =>
    dsimp only
    split <;> simp
  | none =>
    simp only [ne_eq, not_true_eq_false, if_false, String.ofList_toList, names.fromName_name sym named]
    by_cases missing : names.toLower sym = Keysym.noSymbol
    · simp [missing]
    · simp [missing]

open KeyBindingManager in
theorem parseShortcut_build (mods : Modifiers) (sym : Keysym) (named : names.name (names.toLower sym) ≠ "") :
    parseShortcut names (buildShortcut names.toXkb mods sym) =
      (reads names (names.toLower sym)).map fun sym => ⟨known mods, sym, false⟩ := by
  let pressed := modifierNames.filter fun en => mods.has en.1
  have spelled : ∀ en ∈ pressed, Word en.2.toList ∧ modifierForName en.2.toList = some en.1 :=
    fun en mem => modifierNames_spelled en (List.mem_of_mem_filter mem)
  have joined : (buildShortcut names.toXkb mods sym).toList =
      ['+'].intercalate (pressed.map (·.2.toList) ++ [(names.name (names.toLower sym)).toList]) := by
    have filled : (names.name (names.toLower sym)).isEmpty = false := by simpa using named
    simp only [buildShortcut, filled, Bool.false_eq_true, if_false, String.toList_intercalate, List.map_append,
      List.map_map]
    rfl
  have words : ∀ part ∈ pressed.map (·.2.toList) ++ [(names.name (names.toLower sym)).toList], Word part := by
    intro part mem
    rcases List.mem_append.mp mem with modifier | last
    · obtain ⟨en, listed, rfl⟩ := List.mem_map.mp modifier
      exact (spelled en listed).1
    · obtain rfl := List.mem_singleton.mp last
      exact names.name_word _ named
  have ne : modifierNames.Pairwise fun en other => en.1 &&& other.1 = 0 := by decide
  have total : (0 : Modifiers) ||| union pressed = known mods := by
    rw [union_filter modifierNames_bits]
    simp [known]
  rw [parseShortcut_join names joined words (by simp), parseParts_modifiers names spelled (ne.filter _) _ (by simp)]
  rw [total, parseParts_name names named]

end

end Shortcut

end FlakeWM.Input
