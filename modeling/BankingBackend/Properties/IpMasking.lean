import BankingBackend.Foundation.Monitor
import BankingBackend.Http.Address
import BankingBackend.Http.GlobalRateLimit

/-! # Masked addresses and networks

A mask keeps the first groups of an address as they are written, so addresses of one
network share it only where they are written alike.
-/

namespace BankingBackend.Http

open Foundation

/-- Requests from the two addresses are masked alike, and the global rate limit counts them
together. -/
def HostHidden (one other : Address) : Prop :=
  ∀ first second : HttpRequest, clientAddress first = some one.text →
    clientAddress second = some other.text →
      getClientIpMasked first = getClientIpMasked second ∧
        ∀ limitPerMinute answers,
          Monitor.answered answers (GlobalRateLimit.use limitPerMinute first) =
            Monitor.answered answers (GlobalRateLimit.use limitPerMinute second)

/-- Both are IPv4 addresses that are dotted without a port or mapped in lower case, or neither is
and the first four groups that are written are written alike. -/
inductive WrittenAlike (one other : Address) : Prop
  | plain (first : one.plain.isSome = true) (second : other.plain.isSome = true)
  | shown (first : one.plain = none) (second : other.plain = none)
      (groups : one.shown.take 4 = other.shown.take 4)

section Networks

variable {one other address : Address} {dotted another : Dotted}

/-! ## Plain addresses -/

theorem Dotted.value_eq (dotted : Dotted) : dotted.value =
    2 ^ 24 * dotted.first.toNat + 2 ^ 16 * dotted.second.toNat + 2 ^ 8 * dotted.third.toNat +
      dotted.fourth.toNat := by
  simp [Dotted.value, Dotted.groups]
  omega

theorem Dotted.value_lt (dotted : Dotted) : dotted.value < 2 ^ 32 := by
  have first := dotted.first.isLt
  have second := dotted.second.isLt
  have third := dotted.third.isLt
  have fourth := dotted.fourth.isLt
  rw [dotted.value_eq]
  omega

theorem network_of_plain (plain : address.plain = some dotted) :
    address.network = .v4 (dotted.value / 2 ^ 8) := by
  unfold Address.plain at plain
  split at plain
  · cases plain
    rfl
  · rename_i ones dotted fewer
    split at plain
    · rename_i mapped
      cases plain
      have allOnes : ones.value = 0xffff := by
        rw [Group.value, mapped]
        decide
      have value : (IPv6.compressed [] [ones] (some dotted) fewer).value =
          2 ^ 32 * 0xffff + dotted.value := by
        simp [IPv6.value, IPv6.groups, Dotted.value, Dotted.groups, allOnes]
        omega
      have bound := dotted.value_lt
      have head : (2 ^ 32 * 0xffff + dotted.value) / 2 ^ 32 = 0xffff := by omega
      have rest : (2 ^ 32 * 0xffff + dotted.value) % 2 ^ 32 = dotted.value := by omega
      rw [Address.network, value, networkOf, if_pos head, rest]
    · cases plain
  · cases plain

theorem octets_of_value (same : dotted.value / 2 ^ 8 = another.value / 2 ^ 8) :
    dotted.octets.take 3 = another.octets.take 3 := by
  have bounds := And.intro dotted.fourth.isLt another.fourth.isLt
  have seconds := And.intro dotted.second.isLt another.second.isLt
  have thirds := And.intro dotted.third.isLt another.third.isLt
  rw [dotted.value_eq, another.value_eq] at same
  have first : dotted.first = another.first := BitVec.eq_of_toNat_eq (by omega)
  have second : dotted.second = another.second := BitVec.eq_of_toNat_eq (by omega)
  have third : dotted.third = another.third := BitVec.eq_of_toNat_eq (by omega)
  simp [Dotted.octets, first, second, third]

/-! ## Masks -/

theorem shown_form {piece : List Char} (member : piece ∈ address.shown.take 4) :
    piece ≠ [] ∧ ':' ∉ piece := by
  rcases List.mem_filter.mp (List.mem_of_mem_take member) with ⟨member, filled⟩
  refine ⟨by simpa using filled, ?_⟩
  exact (Address.pieces_form (Address.mem_of_mem_unmapped member)).colon_not_mem

theorem shown_eq_of_mask
    (same : [':'].intercalate (one.shown.take 4) ++ "::".toList =
      [':'].intercalate (other.shown.take 4) ++ "::".toList) :
    one.shown.take 4 = other.shown.take 4 := by
  have joined := List.append_cancel_right same
  have nothing {address : Address} (empty : [':'].intercalate (address.shown.take 4) = []) :
      address.shown.take 4 = [] := by
    cases groups : address.shown.take 4 with
    | nil => rfl
    | cons group rest =>
        have filled := (shown_form (groups ▸ List.mem_cons_self)).1
        cases group with
        | nil => exact absurd rfl filled
        | cons character group =>
            rw [groups, List.intercalate_cons_cons_left] at empty
            cases empty
  by_cases first : one.shown.take 4 = []
  · rw [first] at joined ⊢
    exact (nothing joined.symm).symm
  · by_cases second : other.shown.take 4 = []
    · rw [second] at joined
      exact absurd (nothing joined) first
    · exact intercalate_inj (fun _ member => (shown_form member).2)
        (fun _ member => (shown_form member).2) first second joined

/-- Only the mask of a plain address has no colon. -/
theorem plain_mask_ne (plain : one.plain = some dotted) (shown : other.plain = none) :
    maskIp one.text ≠ maskIp other.text := by
  intro same
  rw [Address.maskIp_of_plain plain, Address.maskIp_of_shown shown, String.ofList_inj] at same
  have colon : ':' ∈ ['.'].intercalate (dotted.octets.take 3 ++ [['0']]) := by
    rw [same]
    simp
  rcases mem_of_mem_intercalate colon with equal | ⟨piece, member, inside⟩
  · cases equal
  · rcases List.mem_append.mp member with octet | zero
    · rcases List.mem_map.mp (List.mem_of_mem_take octet) with ⟨number, _, rfl⟩
      cases isDigit_of_mem_decimal inside
    · rw [List.mem_singleton.mp zero] at inside
      cases List.mem_singleton.mp inside

theorem maskIp_eq_iff (same : one.network = other.network) :
    maskIp one.text = maskIp other.text ↔ WrittenAlike one other := by
  cases first : one.plain with
  | none =>
      cases second : other.plain with
      | none =>
          rw [Address.maskIp_of_shown first, Address.maskIp_of_shown second, String.ofList_inj]
          constructor
          · intro masked
            exact .shown first second (shown_eq_of_mask masked)
          · rintro (⟨plain, _⟩ | ⟨_, _, groups⟩)
            · rw [first] at plain
              cases plain
            · rw [groups]
      | some another =>
          refine iff_of_false (plain_mask_ne second first).symm ?_
          rintro (⟨plain, _⟩ | ⟨_, shown, _⟩)
          · rw [first] at plain
            cases plain
          · rw [second] at shown
            cases shown
  | some dotted =>
      cases second : other.plain with
      | none =>
          refine iff_of_false (plain_mask_ne first second) ?_
          rintro (⟨_, plain⟩ | ⟨shown, _, _⟩)
          · rw [second] at plain
            cases plain
          · rw [first] at shown
            cases shown
      | some another =>
          rw [network_of_plain first, network_of_plain second, Network.v4.injEq] at same
          rw [Address.maskIp_of_plain first, Address.maskIp_of_plain second,
            octets_of_value same]
          exact iff_of_true rfl (.plain (by rw [first]; rfl) (by rw [second]; rfl))

/-! ## Requests -/

theorem isSpace_of_isHexDigit {character : Char} (digit : isHexDigit character = true) :
    isSpace character = false := by
  have range : (48 ≤ character.toNat ∧ character.toNat ≤ 57 ∨
      97 ≤ character.toNat ∧ character.toNat ≤ 102) ∨
        65 ≤ character.toNat ∧ character.toNat ≤ 70 := by
    simpa [isHexDigit, isDigit, Char.le_def, UInt32.le_iff_toNat_le] using digit
  simp only [isSpace, Bool.or_eq_false_iff, Bool.and_eq_false_iff, decide_eq_false_iff_not,
    beq_eq_false_iff_ne]
  omega

theorem isSpace_of_mem_text {character : Char} (member : character ∈ address.text.toList) :
    isSpace character = false := by
  rw [Address.text, String.toList_ofList] at member
  rcases mem_of_mem_intercalate member with rfl | ⟨piece, member, inside⟩
  · decide
  · cases Address.pieces_form member with
    | blank => cases inside
    | dotted dotted =>
        rcases mem_of_mem_intercalate inside with rfl | ⟨octet, member, inside⟩
        · decide
        · rcases List.mem_map.mp member with ⟨number, _, rfl⟩
          exact isSpace_of_isHexDigit (isHexDigit_of_isDigit (isDigit_of_mem_decimal inside))
    | digits text filled digits => exact isSpace_of_isHexDigit (digits _ inside)

theorem text_ne_empty (address : Address) : address.text ≠ "" := by
  intro empty
  have nothing : [':'].intercalate address.pieces = [] := String.ofList_eq_empty_iff.mp empty
  have few : address.pieces.length ≤ 1 := by
    by_contra several
    have colon : ':' ∈ [':'].intercalate address.pieces :=
      separator_mem_intercalate (not_le.mp several)
    rw [nothing] at colon
    cases colon
  cases address with
  | v4 dotted port =>
      cases port with
      | none => exact Address.text_ne_nil dotted (List.intercalate_singleton.symm.trans nothing)
      | some port => exact absurd few (by simp [Address.pieces])
  | v6 address =>
      have layout := Address.layout address
      generalize (Address.v6 address).pieces = pieces at layout few
      cases layout with
      | unspecified | last | filled | pair | several => simp at few

theorem clientAddress_ip (address : Address) :
    clientAddress { ip := some address.text } = some address.text := by
  have same : trim address.text = address.text := trim_eq_self fun _ => isSpace_of_mem_text
  simp [clientAddress, HttpRequest.headerText, HttpRequest.header, present, same,
    text_ne_empty address]

theorem hostHidden_iff_mask : HostHidden one other ↔ maskIp one.text = maskIp other.text := by
  constructor
  · intro hidden
    have masked := (hidden { ip := some one.text } { ip := some other.text }
      (clientAddress_ip one) (clientAddress_ip other)).1
    rw [getClientIpMasked, getClientIpMasked, clientAddress_ip, clientAddress_ip] at masked
    exact Option.some.inj masked
  · intro same first second found foundOther
    have masked : getClientIpMasked first = getClientIpMasked second := by
      rw [getClientIpMasked, getClientIpMasked, found, foundOther, Option.map_some,
        Option.map_some, same]
    refine ⟨masked, fun limitPerMinute answers => ?_⟩
    rw [GlobalRateLimit.use_congr masked]

end Networks

theorem host_hidden_iff (one other : Address) :
    (one.network = other.network → HostHidden one other) ↔
      (one.network = other.network → WrittenAlike one other) := by
  refine forall_congr' fun same => ?_
  rw [hostHidden_iff_mask, maskIp_eq_iff same]

/-! ## Two hosts of one network -/

theorem compressed_hosts : ∃ one other : Address,
    one.text = "2001:db8::1" ∧ other.text = "2001:db8::2" ∧ one.network = other.network ∧
      ¬HostHidden one other := by
  let before : List Group := [
    ⟨"2001".toList, by decide, by decide, List.all_eq_true.mp (by decide)⟩,
    ⟨"db8".toList, by decide, by decide, List.all_eq_true.mp (by decide)⟩]
  let one : Group := ⟨"1".toList, by decide, by decide, List.all_eq_true.mp (by decide)⟩
  let two : Group := ⟨"2".toList, by decide, by decide, List.all_eq_true.mp (by decide)⟩
  refine ⟨.v6 (.compressed before [one] none (by decide)),
    .v6 (.compressed before [two] none (by decide)), by decide, by decide, by decide, ?_⟩
  rw [hostHidden_iff_mask]
  decide
end BankingBackend.Http
