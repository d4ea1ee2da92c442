import Mathlib.Data.List.DropRight
import Mathlib.Data.List.Infix

/-! # Text

String operations of JavaScript.
-/

namespace BankingBackend.Foundation

/-- `String.prototype.includes`. -/
def containsText (text : String) (part : List Char) : Bool :=
  text.toList.tails.any part.isPrefixOf

/-- The white space and line terminators that `trim` takes away. -/
def isSpace (character : Char) : Bool :=
  let code := character.toNat
  (9 ≤ code && code ≤ 13) || code == 0x20 || code == 0xA0 || code == 0x1680 ||
    (0x2000 ≤ code && code ≤ 0x200A) || code == 0x2028 || code == 0x2029 ||
    code == 0x202F || code == 0x205F || code == 0x3000 || code == 0xFEFF

/-- `String.prototype.trim`. -/
def trim (text : String) : String :=
  String.ofList ((text.toList.dropWhile isSpace).rdropWhile isSpace)

theorem trim_eq_empty_iff {text : String} :
    trim text = "" ↔ ∀ character ∈ text.toList, isSpace character = true := by
  rw [trim, String.ofList_eq_empty_iff, List.rdropWhile_eq_nil_iff]
  constructor
  · intro trimmed character member
    rw [← List.takeWhile_append_dropWhile (p := isSpace) (l := text.toList)] at member
    rcases List.mem_append.mp member with leading | rest
    · exact List.mem_takeWhile_imp leading
    · exact trimmed character rest
  · intro blank character member
    exact blank character ((List.dropWhile_sublist _).subset member)

theorem trim_eq_self {text : String}
    (visible : ∀ character ∈ text.toList, isSpace character = false) : trim text = text := by
  have started : text.toList.dropWhile isSpace = text.toList := by
    rw [List.dropWhile_eq_self_iff]
    intro filled
    simp [visible _ (List.getElem_mem filled)]
  have ended : text.toList.rdropWhile isSpace = text.toList := by
    rw [List.rdropWhile_eq_self_iff]
    intro filled
    simp [visible _ (List.getLast_mem filled)]
  rw [trim, started, ended, String.ofList_toList]

/-- Texts of one length at the same place can be told from what follows them. -/
theorem text_append_inj {start first second rest otherRest : String}
    (lengths : first.toList.length = second.toList.length)
    (same : start ++ first ++ rest = start ++ second ++ otherRest) :
    first = second ∧ rest = otherRest := by
  have characters := congrArg String.toList same
  simp only [String.toList_append, List.append_assoc] at characters
  have split := List.append_inj (List.append_cancel_left characters) lengths
  exact ⟨String.toList_inj.mp split.1, String.toList_inj.mp split.2⟩

/-! ## Joined pieces -/

section Pieces

variable {α : Type} {separator element : α} {pieces others : List (List α)}

theorem mem_of_mem_intercalate (member : element ∈ [separator].intercalate pieces) :
    element = separator ∨ ∃ piece ∈ pieces, element ∈ piece := by
  induction pieces with
  | nil => cases member
  | cons piece rest induction =>
      cases rest with
      | nil =>
          rw [List.intercalate_singleton] at member
          exact .inr ⟨piece, .head _, member⟩
      | cons next rest =>
          rw [List.intercalate_cons_cons] at member
          rcases List.mem_append.mp member with member | later
          · rcases List.mem_append.mp member with inside | between
            · exact .inr ⟨piece, .head _, inside⟩
            · exact .inl (List.mem_singleton.mp between)
          · rcases induction later with same | ⟨other, member, inside⟩
            · exact .inl same
            · exact .inr ⟨other, .tail _ member, inside⟩

theorem separator_mem_intercalate (several : 2 ≤ pieces.length) :
    separator ∈ [separator].intercalate pieces := by
  rcases pieces with _ | ⟨first, _ | ⟨second, rest⟩⟩
  · cases several
  · exact absurd several (by simp)
  · rw [List.intercalate_cons_cons]
    simp

/-- The last separator tells what is before it from what is after it. -/
theorem append_separator_inj {start otherStart rest otherRest : List α}
    (absent : separator ∉ rest) (absentOther : separator ∉ otherRest)
    (same : start ++ separator :: rest = otherStart ++ separator :: otherRest) :
    start = otherStart ∧ rest = otherRest := by
  rcases List.append_eq_append_iff.mp same with ⟨middle, longer, shifted⟩ | ⟨middle, longer, shifted⟩
  · cases middle with
    | nil =>
        rw [List.append_nil] at longer
        exact ⟨longer.symm, (List.cons.inj shifted).2⟩
    | cons character middle =>
        exact absurd (by rw [(List.cons.inj shifted).2]; simp) absent
  · cases middle with
    | nil =>
        rw [List.append_nil] at longer
        exact ⟨longer, (List.cons.inj shifted).2.symm⟩
    | cons character middle =>
        exact absurd (by rw [(List.cons.inj shifted).2]; simp) absentOther

theorem intercalate_inj [BEq α] [LawfulBEq α] (absent : ∀ piece ∈ pieces, separator ∉ piece)
    (absentOther : ∀ piece ∈ others, separator ∉ piece) (filled : pieces ≠ [])
    (filledOther : others ≠ [])
    (same : [separator].intercalate pieces = [separator].intercalate others) :
    pieces = others := by
  rw [← List.splitOn_intercalate separator absent filled, same,
    List.splitOn_intercalate separator absentOther filledOther]

end Pieces

/-! ## Texts that are not blank -/

def Filled (text : String) : Prop := trim text ≠ ""

instance (text : String) : Decidable (Filled text) := inferInstanceAs (Decidable (_ ≠ _))

theorem filled_iff {text : String} :
    Filled text ↔ ∃ character ∈ text.toList, isSpace character = false := by
  unfold Filled
  rw [ne_eq, trim_eq_empty_iff]
  simp

theorem mem_dropWhile {characters : List Char} {character : Char} (member : character ∈ characters)
    (visible : isSpace character = false) : character ∈ characters.dropWhile isSpace := by
  rw [← List.takeWhile_append_dropWhile (p := isSpace) (l := characters)] at member
  rcases List.mem_append.mp member with leading | rest
  · rw [List.mem_takeWhile_imp leading] at visible
    cases visible
  · exact rest

theorem mem_trim {text : String} {character : Char} (member : character ∈ text.toList)
    (visible : isSpace character = false) : character ∈ (trim text).toList := by
  rw [trim, String.toList_ofList, List.rdropWhile, List.mem_reverse]
  exact mem_dropWhile (List.mem_reverse.mpr (mem_dropWhile member visible)) visible

theorem Filled.trim {text : String} (filled : Filled text) : Filled (trim text) := by
  rcases filled_iff.mp filled with ⟨character, member, visible⟩
  exact filled_iff.mpr ⟨character, mem_trim member visible, visible⟩

end BankingBackend.Foundation
