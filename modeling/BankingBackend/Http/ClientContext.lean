import BankingBackend.Foundation.Text
import BankingBackend.Transactions.Dto

/-! # Requests over HTTP

What `TraceIdMiddleware` takes from the headers and the connection of a request.
-/

namespace BankingBackend.Http

open Foundation Postgres
open Transactions (RequestContext)

inductive HeaderValue
  | text (value : String)
  | list (values : List String)

/-- `ip` is the address Express finds with `trust proxy`, `remoteAddress` the one of the
socket. The names of headers are in lower case and distinct. -/
structure HttpRequest where
  headers : List (String × HeaderValue) := []
  ip : Option String := none
  remoteAddress : Option String := none

namespace HttpRequest

def header (req : HttpRequest) (name : String) : Option HeaderValue :=
  (req.headers.find? fun header => header.1 == name).map Prod.snd

/-- A header that came once. -/
def headerText (req : HttpRequest) (name : String) : Option String :=
  match req.header name with
  | some (.text value) => some value
  | _ => none

end HttpRequest

/-- The trimmed text, unless nothing is left of it. -/
def present (text : String) : Option String := if trim text = "" then none else some (trim text)

/-! ## Client address -/

def firstIpFromXForwardedFor (value : String) : Option String :=
  present (String.ofList ((value.toList.splitOn ',').headD []))

def mappedPrefix : List Char := "::ffff:".toList

def normalizeIp (ip : String) : String :=
  if mappedPrefix.isPrefixOf ip.toList then String.ofList (ip.toList.drop mappedPrefix.length)
  else ip

def isDigit (character : Char) : Bool := '0' ≤ character && character ≤ '9'

def dottedGroups (ip : String) : Option (List (List Char)) :=
  let groups := ip.toList.splitOn '.'
  if groups.length = 4 ∧ groups.all fun group =>
      decide (1 ≤ group.length) && decide (group.length ≤ 3) && group.all isDigit
  then some groups else none

def maskIp (ip : String) : String :=
  let normalized := normalizeIp ip
  match dottedGroups normalized with
  | some groups => String.ofList (['.'].intercalate (groups.take 3 ++ [['0']]))
  | none =>
      let parts := (normalized.toList.splitOn ':').filter fun part => !part.isEmpty
      if parts.isEmpty then normalized
      else String.ofList ([':'].intercalate (parts.take 4) ++ "::".toList)

/-- The address that is masked: the first of the headers and addresses that is present. -/
def clientAddress (req : HttpRequest) : Option String :=
  ((req.headerText "cf-connecting-ip").bind present).or
    ((((req.headerText "x-forwarded-for").bind present).bind firstIpFromXForwardedFor).or
      (((req.headerText "x-real-ip").bind present).or
        ((req.ip.bind present).or (req.remoteAddress.bind present))))

def getClientIpMasked (req : HttpRequest) : Option String := (clientAddress req).map maskIp

def getUserAgent (req : HttpRequest) : Option String := (req.headerText "user-agent").bind present

/-- `TraceIdMiddleware.use`, with the identifier it draws. -/
def traceIdMiddleware (traceId : Uuid) (req : HttpRequest) : RequestContext where
  clientIpMasked := getClientIpMasked req
  userAgent := getUserAgent req
  traceId := some traceId.toText

/-! ## What is present is not blank -/

theorem filled_of_present {text shown : String} (shows : present text = some shown) :
    Filled shown := by
  unfold present at shows
  split at shows
  · cases shows
  · rename_i filled
    cases shows
    exact Filled.trim filled

theorem filled_of_bind {value : Option String} {shown : String}
    (shows : value.bind present = some shown) : Filled shown := by
  rcases Option.bind_eq_some_iff.mp shows with ⟨text, _, shows⟩
  exact filled_of_present shows

theorem getUserAgent_filled {req : HttpRequest} {agent : String}
    (found : getUserAgent req = some agent) : Filled agent := filled_of_bind found

theorem clientAddress_filled {req : HttpRequest} {address : String}
    (found : clientAddress req = some address) : Filled address := by
  unfold clientAddress at found
  simp only [Option.or_eq_some_iff] at found
  rcases found with found | ⟨_, found | ⟨_, found | ⟨_, found | ⟨_, found⟩⟩⟩⟩
  · exact filled_of_bind found
  · rcases Option.bind_eq_some_iff.mp found with ⟨value, _, found⟩
    exact filled_of_present found
  · exact filled_of_bind found
  · exact filled_of_bind found
  · exact filled_of_bind found

/-! ## Masked addresses -/

theorem splitOn_filter_nil {separator : Char} {characters : List Char}
    (absent : separator ∉ characters)
    (empty : (characters.splitOn separator).filter (fun part => !part.isEmpty) = []) :
    characters = [] := by
  rw [List.splitOn_eq_splitOnP, List.splitOnP_eq_singleton] at empty
  · simpa using empty
  · intro character member
    rw [beq_eq_false_iff_ne]
    rintro rfl
    exact absent member

theorem dottedGroups_length {ip : String} {groups : List (List Char)}
    (dotted : dottedGroups ip = some groups) : groups.length = 4 := by
  simp only [dottedGroups] at dotted
  split at dotted
  · rename_i valid
    cases dotted
    exact valid.1
  · cases dotted

/-- Of an address that is not only the prefix of a mapped one something is left. -/
theorem maskIp_filled {ip : String} (left : normalizeIp ip ≠ "") : Filled (maskIp ip) := by
  simp only [maskIp]
  split
  · rename_i groups dotted
    rcases List.length_eq_four.mp (dottedGroups_length dotted) with ⟨_, _, _, _, rfl⟩
    exact filled_iff.mpr ⟨'.', by simp [List.intercalate], by decide⟩
  · split
    · rename_i parts
      refine filled_iff.mpr ⟨':', ?_, by decide⟩
      by_contra absent
      refine left (String.toList_eq_nil_iff.mp (splitOn_filter_nil absent ?_))
      exact List.isEmpty_iff.mp parts
    · refine filled_iff.mpr ⟨':', ?_, by decide⟩
      simp

theorem normalizeIp_eq_empty {ip : String} (shown : ip ≠ "") :
    normalizeIp ip = "" ↔ ip = "::ffff:" := by
  constructor
  · intro empty
    unfold normalizeIp at empty
    split at empty
    · rename_i mapped
      have nothing : ip.toList.drop mappedPrefix.length = [] := String.ofList_eq_empty_iff.mp empty
      have whole := List.prefix_iff_eq_append.mp (List.isPrefixOf_iff_prefix.mp mapped)
      rw [nothing, List.append_nil] at whole
      exact String.toList_inj.mp whole.symm
    · exact absurd empty shown
  · rintro rfl
    decide

end BankingBackend.Http
