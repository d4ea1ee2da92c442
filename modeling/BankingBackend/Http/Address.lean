import BankingBackend.Http.ClientContext

/-! # Textual forms of IP addresses

Dotted IPv4, with or without a port, and IPv6 in full or with a `::`, whose last 32 bits
may be dotted. The groups are written in any letter case, with or without leading zeros.
-/

namespace BankingBackend.Http

open Foundation

/-! ## The parts of an address -/

def decimal (number : ℕ) : List Char := Nat.toDigits 10 number

structure Dotted where
  first : BitVec 8
  second : BitVec 8
  third : BitVec 8
  fourth : BitVec 8

namespace Dotted

variable (address : Dotted)

def octets : List (List Char) :=
  [address.first, address.second, address.third, address.fourth].map fun octet =>
    decimal octet.toNat

def text : List Char := ['.'].intercalate address.octets

def groups : List ℕ :=
  [256 * address.first.toNat + address.second.toNat,
    256 * address.third.toNat + address.fourth.toNat]

def value : ℕ := address.groups.foldl (fun value group => 65536 * value + group) 0

end Dotted

def isHexDigit (character : Char) : Bool :=
  isDigit character || ('a' ≤ character && character ≤ 'f') ||
    ('A' ≤ character && character ≤ 'F')

def hexValue (character : Char) : ℕ :=
  if isDigit character then character.toNat - '0'.toNat
  else if 'a' ≤ character then character.toNat - 'a'.toNat + 10
  else character.toNat - 'A'.toNat + 10

/-- One to four hexadecimal digits. -/
structure Group where
  text : List Char
  filled : text ≠ []
  short : text.length ≤ 4
  digits : ∀ character ∈ text, isHexDigit character = true

def Group.value (group : Group) : ℕ :=
  group.text.foldl (fun value character => 16 * value + hexValue character) 0

/-! ## The forms -/

/-- `tail` is the dotted form of the last two groups. -/
inductive IPv6
  | full (groups : List Group) (tail : Option Dotted)
      (eight : groups.length + 2 * tail.toList.length = 8)
  | compressed (before after : List Group) (tail : Option Dotted)
      (fewer : before.length + after.length + 2 * tail.toList.length ≤ 7)

namespace IPv6

/-- The eight groups, with those that `::` stands for. -/
def groups : IPv6 → List ℕ
  | .full groups tail _ => groups.map Group.value ++ tail.toList.flatMap Dotted.groups
  | .compressed before after tail _ =>
      let written := after.map Group.value ++ tail.toList.flatMap Dotted.groups
      before.map Group.value ++ List.replicate (8 - before.length - written.length) 0 ++ written

def value (address : IPv6) : ℕ :=
  address.groups.foldl (fun value group => 65536 * value + group) 0

end IPv6

inductive Address
  | v4 (address : Dotted) (port : Option (BitVec 16))
  | v6 (address : IPv6)

/-- The first bits of an address: 24 of an IPv4 address, also when it is mapped into IPv6,
and 64 of an IPv6 address. -/
inductive Network
  | v4 (bits : ℕ)
  | v6 (bits : ℕ)
  deriving DecidableEq

def networkOf (value : ℕ) : Network :=
  if value / 2 ^ 32 = 0xffff then .v4 (value % 2 ^ 32 / 2 ^ 8) else .v6 (value / 2 ^ 64)

namespace Address

def network : Address → Network
  | .v4 address _ => .v4 (address.value / 2 ^ 8)
  | .v6 address => networkOf address.value

/-! ### Text -/

def side (pieces : List (List Char)) : List (List Char) :=
  if pieces.isEmpty then [[]] else pieces

/-- What the colons separate. -/
def pieces : Address → List (List Char)
  | .v4 address port => address.text :: port.toList.map fun port => decimal port.toNat
  | .v6 (.full groups tail _) => groups.map Group.text ++ tail.toList.map Dotted.text
  | .v6 (.compressed before after tail _) =>
      side (before.map Group.text) ++
        [] :: side (after.map Group.text ++ tail.toList.map Dotted.text)

def text (address : Address) : String := String.ofList ([':'].intercalate address.pieces)

end Address

/-! ## Characters -/

section Characters

variable {character : Char}

theorem isDigit_of_mem_decimal {number : ℕ} (member : character ∈ decimal number) :
    isDigit character = true := by
  have digit := Nat.isDigit_of_mem_toDigits (by decide) (by decide) member
  simpa [Char.isDigit, isDigit, Char.le_def] using digit

theorem isHexDigit_of_isDigit (digit : isDigit character = true) :
    isHexDigit character = true := by
  simp [isHexDigit, digit]

end Characters

/-! ## Dotted addresses -/

theorem Dotted.colon_not_mem (address : Dotted) : ':' ∉ address.text := by
  intro colon
  rcases mem_of_mem_intercalate colon with dot | ⟨octet, member, inside⟩
  · cases dot
  · rcases List.mem_map.mp member with ⟨number, _, rfl⟩
    cases isDigit_of_mem_decimal inside

theorem dottedGroups_text (address : Dotted) :
    dottedGroups (String.ofList address.text) = some address.octets := by
  have dots : ∀ octet ∈ address.octets, '.' ∉ octet := by
    intro octet member dot
    rcases List.mem_map.mp member with ⟨number, _, rfl⟩
    cases isDigit_of_mem_decimal dot
  have split : address.text.splitOn '.' = address.octets :=
    List.splitOn_intercalate _ dots (by simp [Dotted.octets])
  have valid : address.octets.length = 4 ∧ (address.octets.all fun octet =>
      decide (1 ≤ octet.length) && decide (octet.length ≤ 3) && octet.all isDigit) = true := by
    refine ⟨rfl, List.all_eq_true.mpr fun octet member => ?_⟩
    rcases List.mem_map.mp member with ⟨number, _, rfl⟩
    have long : (decimal number.toNat).length ≤ 3 :=
      (Nat.length_toDigits_le_iff (by decide) (by decide)).mpr (by have := number.isLt; omega)
    have filled : 1 ≤ (decimal number.toNat).length := Nat.length_toDigits_pos
    simp [long, filled]
    exact fun c m => isDigit_of_mem_decimal m
  rw [dottedGroups, String.toList_ofList, split, if_pos valid]

theorem dottedGroups_of_colon {text : List Char} (colon : ':' ∈ text) :
    dottedGroups (String.ofList text) = none := by
  rw [dottedGroups, String.toList_ofList]
  refine if_neg fun valid => ?_
  have whole : ['.'].intercalate (text.splitOn '.') = text := List.intercalate_splitOn '.'
  rw [← whole] at colon
  rcases mem_of_mem_intercalate colon with dot | ⟨group, member, inside⟩
  · cases dot
  · have digits := List.all_eq_true.mp valid.2 group member
    simp only [Bool.and_eq_true, List.all_eq_true] at digits
    cases digits.2 _ inside

theorem dottedGroups_of_no_dot {text : List Char} (dot : '.' ∉ text) :
    dottedGroups (String.ofList text) = none := by
  rw [dottedGroups, String.toList_ofList, List.splitOn_eq_singleton dot]
  exact if_neg fun valid => by cases valid.1

/-! ## Without the prefix of a mapped address -/

/-- The pieces of an address without `::ffff:`. -/
def unmapped : List (List Char) → List (List Char)
  | [] :: [] :: ones :: piece :: rest =>
      if ones = "ffff".toList then piece :: rest else [] :: [] :: ones :: piece :: rest
  | pieces => pieces

section Normalized

variable {pieces : List (List Char)}

theorem mapped_text (filled : pieces ≠ []) :
    [':'].intercalate ([] :: [] :: "ffff".toList :: pieces) =
      mappedPrefix ++ [':'].intercalate pieces := by
  rw [List.intercalate_cons_of_ne_nil (by simp), List.intercalate_cons_of_ne_nil (by simp),
    List.intercalate_cons_of_ne_nil filled]
  rfl

theorem splitOn_mappedPrefix (rest : List Char) :
    (mappedPrefix ++ rest).splitOn ':' = [] :: [] :: "ffff".toList :: rest.splitOn ':' := by
  have text : mappedPrefix ++ rest = "::ffff".toList ++ ':' :: rest := rfl
  have split : "::ffff".toList.splitOn ':' = [[], [], "ffff".toList] := by decide
  rw [text, List.splitOn_append_cons_self, split]
  rfl

theorem normalizeIp_pieces (absent : ∀ piece ∈ pieces, ':' ∉ piece) (filled : pieces ≠ []) :
    normalizeIp (String.ofList ([':'].intercalate pieces)) =
      String.ofList ([':'].intercalate (unmapped pieces)) := by
  rw [normalizeIp, String.toList_ofList]
  split
  · rename_i starts
    rcases List.isPrefixOf_iff_prefix.mp starts with ⟨rest, text⟩
    have split := splitOn_mappedPrefix rest
    rw [text, List.splitOn_intercalate ':' absent filled] at split
    rw [← text, List.drop_left, split]
    cases pieces : rest.splitOn ':' with
    | nil => exact absurd pieces (List.splitOn_ne_nil ':' rest)
    | cons piece others =>
        rw [unmapped, if_pos rfl, ← pieces, List.intercalate_splitOn]
  · rename_i starts
    congr 2
    unfold unmapped
    split
    · rename_i ones piece rest
      split
      · rename_i mapped
        refine absurd ?_ starts
        rw [mapped, mapped_text (by simp), List.isPrefixOf_iff_prefix]
        exact List.prefix_append _ _
      · rfl
    · rfl

end Normalized

theorem isHexDigit_ne {character : Char} (digit : isHexDigit character = true) :
    character ≠ ':' ∧ character ≠ '.' := by
  constructor
  · rintro rfl
    cases digit
  · rintro rfl
    cases digit

/-! ## The pieces of an address -/

namespace Address

inductive Piece : List Char → Prop
  | blank : Piece []
  | dotted (address : Dotted) : Piece address.text
  | digits (text : List Char) (filled : text ≠ [])
      (digits : ∀ character ∈ text, isHexDigit character = true) : Piece text

variable {address : Address} {piece : List Char}

theorem Piece.colon_not_mem (form : Piece piece) : ':' ∉ piece := by
  cases form with
  | blank => simp
  | dotted address => exact address.colon_not_mem
  | digits text filled digits => exact fun colon => (isHexDigit_ne (digits _ colon)).1 rfl

theorem pieces_form (member : piece ∈ address.pieces) : Piece piece := by
  have group {groups : List Group} (member : piece ∈ groups.map Group.text) : Piece piece := by
    rcases List.mem_map.mp member with ⟨group, _, rfl⟩
    exact .digits _ group.filled group.digits
  have tail {tail : Option Dotted} (member : piece ∈ tail.toList.map Dotted.text) :
      Piece piece := by
    rcases List.mem_map.mp member with ⟨dotted, _, rfl⟩
    exact .dotted dotted
  have padded {pieces : List (List Char)} (member : piece ∈ side pieces) :
      piece = [] ∨ piece ∈ pieces := by
    unfold side at member
    split at member
    · exact .inl (List.mem_singleton.mp member)
    · exact .inr member
  cases address with
  | v4 dotted port =>
      rcases List.mem_cons.mp member with rfl | member
      · exact .dotted dotted
      · rcases List.mem_map.mp member with ⟨number, _, rfl⟩
        exact .digits _ Nat.toDigits_ne_nil fun character member =>
          isHexDigit_of_isDigit (isDigit_of_mem_decimal member)
  | v6 address =>
      cases address with
      | full groups last eight =>
          rcases List.mem_append.mp member with member | member
          · exact group member
          · exact tail member
      | compressed before after last fewer =>
          rcases List.mem_append.mp member with member | member
          · rcases padded member with rfl | member
            · exact .blank
            · exact group member
          · rcases List.mem_cons.mp member with rfl | member
            · exact .blank
            · rcases padded member with rfl | member
              · exact .blank
              · rcases List.mem_append.mp member with member | member
                · exact group member
                · exact tail member

theorem pieces_ne_nil (address : Address) : address.pieces ≠ [] := by
  cases address with
  | v4 dotted port => exact List.cons_ne_nil _ _
  | v6 address =>
      cases address with
      | full groups last eight =>
          intro nothing
          rcases List.append_eq_nil_iff.mp nothing with ⟨first, second⟩
          rw [List.map_eq_nil_iff] at first second
          rw [first, second] at eight
          cases eight
      | compressed before after last fewer =>
          simp [pieces]

/-- The IPv4 address, when it is dotted without a port or mapped in lower case. -/
def plain : Address → Option Dotted
  | .v4 dotted none => some dotted
  | .v6 (.compressed [] [ones] (some dotted) _) =>
      if ones.text = "ffff".toList then some dotted else none
  | _ => none

/-- The groups as they are written, without the prefix of a mapped address in lower case. -/
def shown (address : Address) : List (List Char) :=
  (unmapped address.pieces).filter fun piece => !piece.isEmpty

theorem normalizeIp_text (address : Address) :
    normalizeIp address.text = String.ofList ([':'].intercalate (unmapped address.pieces)) :=
  normalizeIp_pieces (fun _ member => (pieces_form member).colon_not_mem) address.pieces_ne_nil

theorem unmapped_of_short {pieces : List (List Char)} (short : pieces.length ≤ 3) :
    unmapped pieces = pieces := by
  unfold unmapped
  split
  · simp only [List.length_cons] at short
    omega
  · rfl

theorem unmapped_of_filled {piece : List Char} {rest : List (List Char)} (filled : piece ≠ []) :
    unmapped (piece :: rest) = piece :: rest := by
  cases piece with
  | nil => exact absurd rfl filled
  | cons character piece => rfl

theorem unmapped_of_plain {dotted : Dotted} (plain : address.plain = some dotted) :
    unmapped address.pieces = [dotted.text] := by
  unfold Address.plain at plain
  split at plain
  · cases plain
    exact unmapped_of_short (by simp [pieces])
  · rename_i ones dotted fewer
    split at plain
    · rename_i mapped
      cases plain
      exact if_pos mapped
    · cases plain
  · cases plain

theorem dottedGroups_of_several {pieces : List (List Char)} (several : 2 ≤ pieces.length) :
    dottedGroups (String.ofList ([':'].intercalate pieces)) = none :=
  dottedGroups_of_colon (separator_mem_intercalate several)

theorem text_ne_nil (dotted : Dotted) : dotted.text ≠ [] :=
  List.ne_nil_of_mem (separator_mem_intercalate (by simp [Dotted.octets]))

/-- The pieces of an IPv6 address, by what is left of them. -/
inductive Layout (plain : Option Dotted) : List (List Char) → Prop
  | unspecified : Layout plain [[], [], []]
  | last (piece : List Char) (filled : piece ≠ []) : Layout plain [[], [], piece]
  | filled (piece next : List Char) (rest : List (List Char)) (filled : piece ≠ []) :
      Layout plain (piece :: next :: rest)
  | pair (first second : List Char) (filled : second ≠ [])
      (digits : first = "ffff".toList → plain = none → '.' ∉ second) :
      Layout plain [[], [], first, second]
  | several (first second third : List Char) (rest : List (List Char)) (filled : second ≠ []) :
      Layout plain ([] :: [] :: first :: second :: third :: rest)

theorem layout (address : IPv6) :
    Layout (Address.v6 address).plain (Address.v6 address).pieces := by
  cases address with
  | full groups tail eight =>
      rcases groups with _ | ⟨first, _ | ⟨second, rest⟩⟩
      · cases tail with
        | none => cases eight
        | some dotted => cases eight
      · cases tail with
        | none => cases eight
        | some dotted => cases eight
      · exact .filled _ _ _ first.filled
  | compressed before after tail fewer =>
      rcases before with _ | ⟨first, _ | ⟨second, rest⟩⟩
      · rcases after with _ | ⟨ones, _ | ⟨group, _ | ⟨next, rest⟩⟩⟩
        · cases tail with
          | none => exact .unspecified
          | some dotted => exact .last _ (text_ne_nil dotted)
        · cases tail with
          | none => exact .last _ ones.filled
          | some dotted =>
              refine .pair _ _ (text_ne_nil dotted) fun mapped plain => ?_
              rw [Address.plain, if_pos mapped] at plain
              cases plain
        · cases tail with
          | none => exact .pair _ _ group.filled fun _ _ dot =>
              (isHexDigit_ne (group.digits _ dot)).2 rfl
          | some dotted => exact .several _ _ _ _ group.filled
        · exact .several _ _ _ _ group.filled
      · exact .filled _ _ _ first.filled
      · exact .filled _ _ _ first.filled

theorem not_dotted (plain : address.plain = none) :
    dottedGroups (String.ofList ([':'].intercalate (unmapped address.pieces))) = none := by
  cases address with
  | v4 dotted port =>
      cases port with
      | none => cases plain
      | some port =>
          rw [unmapped_of_short (by simp [pieces])]
          exact dottedGroups_of_several (by simp [pieces])
  | v6 address =>
      have layout := layout address
      rw [plain] at layout
      generalize (Address.v6 address).pieces = pieces at layout
      cases layout with
      | unspecified =>
          rw [unmapped_of_short (by simp)]
          exact dottedGroups_of_several (by simp)
      | last piece filled =>
          rw [unmapped_of_short (by simp)]
          exact dottedGroups_of_several (by simp)
      | filled piece next rest filled =>
          rw [unmapped_of_filled filled]
          exact dottedGroups_of_several (by simp)
      | pair first second filled digits =>
          rw [unmapped]
          split
          · rename_i mapped
            rw [List.intercalate_singleton]
            exact dottedGroups_of_no_dot (digits mapped rfl)
          · exact dottedGroups_of_several (by simp)
      | several first second third rest filled =>
          rw [unmapped]
          split
          · exact dottedGroups_of_several (by simp)
          · exact dottedGroups_of_several (by simp)

theorem mem_of_mem_unmapped {pieces : List (List Char)} (member : piece ∈ unmapped pieces) :
    piece ∈ pieces := by
  unfold unmapped at member
  split at member
  · split at member
    · exact .tail _ (.tail _ (.tail _ member))
    · exact member
  · exact member

theorem unmapped_ne_nil {pieces : List (List Char)} (filled : pieces ≠ []) :
    unmapped pieces ≠ [] := by
  unfold unmapped
  split
  · split
    · exact List.cons_ne_nil _ _
    · exact List.cons_ne_nil _ _
  · exact filled

/-- Something shows of every address but `::`. -/
theorem pieces_of_shown_nil (nothing : address.shown = []) :
    [':'].intercalate (unmapped address.pieces) = "::".toList := by
  have absent {piece : List Char} (filled : piece ≠ []) : piece ∉ unmapped address.pieces := by
    intro member
    have shows : piece ∈ address.shown :=
      List.mem_filter.mpr ⟨member, by rw [List.isEmpty_eq_false_iff.mpr filled]; rfl⟩
    rw [nothing] at shows
    cases shows
  cases address with
  | v4 dotted port =>
      refine absurd ?_ (absent (text_ne_nil dotted))
      cases port with
      | none =>
          rw [unmapped_of_short (by simp [pieces])]
          exact .head _
      | some port =>
          rw [unmapped_of_short (by simp [pieces])]
          exact .head _
  | v6 address =>
      have layout := layout address
      generalize (Address.v6 address).pieces = pieces at layout absent
      cases layout with
      | unspecified => rfl
      | last piece filled =>
          refine absurd ?_ (absent filled)
          rw [unmapped_of_short (by simp)]
          simp
      | filled piece next rest filled =>
          refine absurd ?_ (absent filled)
          rw [unmapped_of_filled filled]
          exact .head _
      | pair first second filled digits =>
          refine absurd ?_ (absent filled)
          rw [unmapped]
          split
          · exact .head _
          · simp
      | several first second third rest filled =>
          refine absurd ?_ (absent filled)
          rw [unmapped]
          split
          · exact .head _
          · simp

/-! ### Masks -/

theorem maskIp_of_plain {dotted : Dotted} (plain : address.plain = some dotted) :
    maskIp address.text =
      String.ofList (['.'].intercalate (dotted.octets.take 3 ++ [['0']])) := by
  simp only [maskIp]
  rw [normalizeIp_text, unmapped_of_plain plain, List.intercalate_singleton, dottedGroups_text]

theorem maskIp_of_shown (plain : address.plain = none) :
    maskIp address.text =
      String.ofList ([':'].intercalate (address.shown.take 4) ++ "::".toList) := by
  have split : ([':'].intercalate (unmapped address.pieces)).splitOn ':' =
      unmapped address.pieces :=
    List.splitOn_intercalate ':'
      (fun piece member => (pieces_form (mem_of_mem_unmapped member)).colon_not_mem)
      (unmapped_ne_nil address.pieces_ne_nil)
  simp only [maskIp]
  rw [normalizeIp_text, not_dotted plain, String.toList_ofList, split]
  show (if address.shown.isEmpty then _ else _) = _
  split
  · rename_i nothing
    have nothing := List.isEmpty_iff.mp nothing
    rw [pieces_of_shown_nil nothing, nothing]
    rfl
  · rfl

end Address

end BankingBackend.Http
