import BankingBackend.Http.Address
import BankingBackend.Http.RateLimits
import Mathlib.Algebra.Order.Floor.Semiring
import Mathlib.Data.Rat.Floor

/-! # What the rate limits admit

Each limit has its own keys in Redis. A key counts one minute of one address, email or
user, and what is counted before the minute ends is numbered one by one.
-/

namespace BankingBackend.Http.RateLimits

open Foundation
open FixedWindow (Counters Counting Hit Numbered Justified)

/-! ## Rules and their keys -/

inductive Rule
  | address (masked : String)
  | loginAddress (ip : String)
  | loginEmail (email : String)
  | user (userId : String)
  deriving DecidableEq

namespace Rule

def key : Rule → ℕ → String
  | .address masked => GlobalRateLimit.key masked
  | .loginAddress ip => Auth.LoginRateLimit.ipKey ip
  | .loginEmail email => Auth.LoginRateLimit.emailKey email
  | .user userId => Transactions.TransferRateLimit.key userId

def windowSeconds : Rule → ℕ
  | .address _ | .user _ => 60
  | .loginAddress _ | .loginEmail _ => 120

def limit (limits : Limits) : Rule → ℚ
  | .address _ => limits.globalPerMinute
  | .loginAddress _ => limits.login.ipPerMinute
  | .loginEmail _ => limits.login.emailPerMinute
  | .user _ => limits.transferPerMinute

def message : Rule → String
  | .address _ => "Too many requests. Try again later."
  | .loginAddress _ | .loginEmail _ => "Too many login attempts. Try again later."
  | .user _ => "Too many transaction attempts. Try again later."

end Rule

def Incoming.rules (toLowerCase : String → String) (incoming : Incoming) : List Rule :=
  .address ((getClientIpMasked incoming.http).getD "unknown") ::
    match incoming.route with
    | .login bodyEmail =>
        [.loginAddress (Auth.LoginRateLimit.getClientIp incoming.http),
          .loginEmail (Auth.LoginRateLimit.normalizeEmail toLowerCase bodyEmail)]
    | .transaction userId => [.user (userId.getD "")]
    | .other => []

/-! ### Keys -/

section Keys

variable {first second : String} {minute other : ℕ}

theorem colon_not_mem_decimal : ':' ∉ decimal minute :=
  fun member => Bool.noConfusion (isDigit_of_mem_decimal member)

/-- The minute is what follows the last colon. -/
theorem minute_inj (same : first.toList ++ ':' :: decimal minute =
    second.toList ++ ':' :: decimal other) : first = second ∧ minute = other := by
  have parts := append_separator_inj colon_not_mem_decimal colon_not_mem_decimal same
  have numbers := congrArg (fun digits => Nat.ofDigitChars 10 digits 0) parts.2
  simp only [decimal, Nat.ofDigitChars_ten_toDigits] at numbers
  exact ⟨String.toList_inj.mp parts.1, numbers⟩

/-- What the keys of a rule begin with, and what they count. -/
def Rule.parts : Rule → String × String
  | .address masked => ("global:rate:ip:", masked)
  | .loginAddress ip => ("login:ip:", ip)
  | .loginEmail email => ("login:email:", email)
  | .user userId => ("transfer:rate:user:", userId)

theorem Rule.toList_key (rule : Rule) (minute : ℕ) : (rule.key minute).toList =
    rule.parts.1.toList ++ (rule.parts.2.toList ++ ':' :: decimal minute) := by
  have digits : (toString minute).toList = decimal minute := Nat.toList_repr
  have colon : ":".toList = [':'] := rfl
  have joined (name subject : String) : (name ++ subject ++ ":" ++ toString minute).toList =
      name.toList ++ (subject.toList ++ ':' :: decimal minute) := by
    simp only [String.toList_append, digits, colon, List.append_assoc, List.singleton_append]
  cases rule with
  | address masked => exact joined "global:rate:ip:" masked
  | loginAddress ip => exact joined "login:ip:" ip
  | loginEmail email => exact joined "login:email:" email
  | user userId => exact joined "transfer:rate:user:" userId

theorem Rule.key_inj {rule another : Rule} (same : rule.key minute = another.key other) :
    rule = another ∧ minute = other := by
  have characters := congrArg String.toList same
  rw [Rule.toList_key, Rule.toList_key] at characters
  have alike {name : String} {subject anotherSubject : String}
      (equal : name.toList ++ (subject.toList ++ ':' :: decimal minute) =
        name.toList ++ (anotherSubject.toList ++ ':' :: decimal other)) :
      subject = anotherSubject ∧ minute = other :=
    minute_inj (List.append_cancel_left equal)
  cases rule with
  | address masked =>
      cases another with
      | address => exact (alike characters).imp_left (congrArg _)
      | loginAddress | loginEmail | user => simp [Rule.parts] at characters
  | loginAddress ip =>
      cases another with
      | loginAddress => exact (alike characters).imp_left (congrArg _)
      | address | loginEmail | user => simp [Rule.parts] at characters
  | loginEmail email =>
      cases another with
      | loginEmail => exact (alike characters).imp_left (congrArg _)
      | address | loginAddress | user => simp [Rule.parts] at characters
  | user userId =>
      cases another with
      | user => exact (alike characters).imp_left (congrArg _)
      | address | loginAddress | loginEmail => simp [Rule.parts] at characters

end Keys

/-! ## One request -/

/-- The time it last read and what it has counted, with the counts it was told. -/
structure Track where
  date : Option ℕ
  counts : List (String × Option ℤ)

namespace Track

def Uses (track : Track) (rule : Rule) : Prop :=
  ∃ entry ∈ track.counts, ∃ minute, entry.1 = rule.key minute

def count (track : Track) (key : String) (raw : Except String ℤ) : Track :=
  { track with counts := track.counts ++ [(key, raw.toOption)] }

def Within (limits : Limits) (track : Track) : Prop :=
  ∀ (rule : Rule) minute count, (rule.key minute, some count) ∈ track.counts →
    (count : ℚ) ≤ rule.limit limits

def Exceeds (limits : Limits) (rule : Rule) (track : Track) : Prop :=
  ∃ minute count, (rule.key minute, some count) ∈ track.counts ∧ rule.limit limits < count

end Track

/-- A request counts each of its rules at most once, in the minute it has read. -/
def counting (rules : List Rule) : Monitor interface Track where
  permits track
    | .eval key windowSeconds => ∃ rule ∈ rules, ∃ date, track.date = some date ∧
        key = rule.key (date / 60000) ∧ windowSeconds = rule.windowSeconds ∧ ¬track.Uses rule
    | .isReady | .date | .lockUntil _ => True
  moves track
    | .eval key _, raw, following => (∀ count, raw = .ok count → 1 ≤ count) ∧
        following = track.count key raw
    | .date, now, following => following = { track with date := some now }
    | .isReady, _, following | .lockUntil _, _, following => following = track

/-- An admitted request is within all its limits, and a request is refused for a limit that it
exceeds or for a lock. -/
def Judged (limits : Limits) (rules : List Rule) (verdict : Verdict) (track : Track) : Prop :=
  match verdict with
  | .admitted => track.Within limits
  | .refused status message => status = 423 ∨
      status = 429 ∧ ∃ rule ∈ rules, message = rule.message ∧ track.Exceeds limits rule

section Programs

variable {limits : Limits} {rules used : List Rule} {rule other : Rule} {track : Track} {minute : ℕ}
  {number : ℤ} {message : String}

theorem Track.Uses.of_count {raw : Except String ℤ}
    (uses : (track.count (rule.key minute) raw).Uses other) : track.Uses other ∨ other = rule := by
  rcases uses with ⟨entry, member, later, named⟩
  rcases List.mem_append.mp member with member | newest
  · exact .inl ⟨entry, member, later, named⟩
  · cases List.mem_singleton.mp newest
    exact .inr (Rule.key_inj named).1.symm

theorem Track.Within.failed (within : track.Within limits) :
    (track.count (rule.key minute) (.error message)).Within limits := by
  intro other later count member
  rcases List.mem_append.mp member with member | newest
  · exact within other later count member
  · cases congrArg Prod.snd (List.mem_singleton.mp newest)

theorem Track.Within.counted (within : track.Within limits)
    (below : (number : ℚ) ≤ rule.limit limits) :
    (track.count (rule.key minute) (.ok number)).Within limits := by
  intro other later count member
  rcases List.mem_append.mp member with member | newest
  · exact within other later count member
  · injection List.mem_singleton.mp newest with named numbered
    cases (Rule.key_inj named).1
    cases numbered
    exact below

theorem Track.exceeds_count (track : Track) (rule : Rule) (minute : ℕ)
    (above : rule.limit limits < number) :
    (track.count (rule.key minute) (.ok number)).Exceeds limits rule :=
  ⟨minute, number, List.mem_append_right _ (List.mem_singleton.mpr rfl), above⟩

structure Passed (limits : Limits) (used : List Rule) (track : Track) : Prop where
  within : track.Within limits
  used : ∀ rule, track.Uses rule → rule ∈ used

theorem Passed.count {raw : Except String ℤ} (passed : Passed limits used track) (rule : Rule)
    (minute : ℕ) (below : ∀ count, raw = .ok count → (count : ℚ) ≤ rule.limit limits) :
    Passed limits (rule :: used) (track.count (rule.key minute) raw) where
  within := by
    cases raw with
    | error message => exact passed.within.failed
    | ok count => exact passed.within.counted (below count rfl)
  used other uses := by
    rcases uses.of_count with before | rfl
    · exact .tail _ (passed.used other before)
    · exact .head _

/-! ### The middleware -/

def Incoming.address (incoming : Incoming) : Rule :=
  .address ((getClientIpMasked incoming.http).getD "unknown")

def Forwards (limits : Limits) (rules used : List Rule) (outcome : GlobalRateLimit.Outcome)
    (track : Track) : Prop :=
  match outcome with
  | .next => Passed limits used track
  | .respond status message => Judged limits rules (.refused status message) track

theorem follows_use {incoming : Incoming} (subject : incoming.address ∈ rules)
    (passed : Passed limits [] track) :
    ((counting rules).comap globalRateLimit).Follows
      (Forwards limits rules [incoming.address])
      (GlobalRateLimit.use limits.globalPerMinute incoming.http) track := by
  have none_used (rule : Rule) : ¬track.Uses rule := fun uses => by cases passed.used rule uses
  unfold GlobalRateLimit.use
  refine ⟨True.intro, ?_⟩
  rintro ready track ⟨_, _, rfl⟩
  cases ready with
  | false => exact ⟨passed.within, fun rule uses => absurd uses (none_used rule)⟩
  | true =>
      refine ⟨True.intro, ?_⟩
      rintro _ _ ⟨now, rfl, rfl⟩
      refine ⟨⟨incoming.address, subject, now, rfl, rfl, rfl, none_used _⟩, ?_⟩
      rintro _ _ ⟨raw, rfl, positive, rfl⟩
      have started : Passed limits [] { track with date := some now } :=
        ⟨passed.within, passed.used⟩
      cases raw with
      | error message => exact started.count incoming.address _ (by rintro _ ⟨⟩)
      | ok number =>
          refine Monitor.Follows.ite
            (fun invalid => absurd invalid (not_lt.mpr (positive number rfl)))
            fun _ => Monitor.Follows.ite (fun above => ?_) fun above => ?_
          · exact .inr ⟨rfl, incoming.address, subject, rfl,
              Track.exceeds_count _ incoming.address _ above⟩
          · refine started.count incoming.address _ fun count same => ?_
            cases same
            exact not_lt.mp above

/-! ### The guard of the login -/

section Login

open Auth.LoginRateLimit

def LoginChecked (limits : Limits) (used : List Rule) (rule : Rule) (date : ℕ)
    (result : Except GuardError Unit) (track : Track) : Prop :=
  match result with
  | .ok () => track.date = some date ∧ Passed limits (rule :: used) track
  | .error (.tooManyRequests message) => message = rule.message ∧ track.Exceeds limits rule
  | .error (.accountLocked _) => False
  | .error (.failed _) => track.Within limits

theorem obeys_login_checkLimit {date : ℕ} (subject : rule ∈ rules)
    (seconds : rule.windowSeconds = 120)
    (text : rule.message = "Too many login attempts. Try again later.") (fresh : rule ∉ used)
    (dated : track.date = some date) (passed : Passed limits used track) :
    ((counting rules).comap loginRateLimit).Obeys (LoginChecked limits used rule date)
      (checkLimit (rule.key (date / 60000)) (rule.limit limits)) track := by
  refine ⟨⟨rule, subject, date, dated, rfl, seconds.symm, fun uses => ?_⟩, ?_⟩
  · exact fresh (passed.used rule uses)
  rintro _ _ ⟨raw, rfl, positive, rfl⟩
  cases raw with
  | error message => exact (passed.count rule _ (by rintro _ ⟨⟩)).within
  | ok number =>
      refine Monitor.Follows.ite
        (fun invalid => absurd invalid (not_lt.mpr (positive number rfl)))
        fun _ => Monitor.Follows.ite (fun above => ?_) fun above => ?_
      · exact ⟨text.symm, Track.exceeds_count _ rule _ above⟩
      · refine ⟨dated, passed.count rule _ fun count same => ?_⟩
        cases same
        exact not_lt.mp above

/-- How the guard ends, and where its error is one of Redis. -/
def LoginGuarded (limits : Limits) (rules : List Rule) (result : Except GuardError Bool)
    (track : Track) : Prop :=
  Judged limits rules (loginVerdict result) track ∨
    ∃ message, result = .error (.failed message) ∧ track.Within limits

theorem obeys_checkDbAccountLock {email : String} (within : track.Within limits) :
    ((counting rules).comap loginRateLimit).Obeys
      (fun result => Judged limits rules (loginVerdict result)) (checkDbAccountLock email)
      track := by
  refine Monitor.Follows.ite (fun _ => within) fun _ => ⟨True.intro, ?_⟩
  rintro _ track ⟨customer, rfl, rfl⟩
  rcases customer with error | (none | (none | lockUntil))
  · exact within
  · exact within
  · exact within
  · refine ⟨True.intro, ?_⟩
    rintro _ _ ⟨now, rfl, rfl⟩
    exact Monitor.Follows.ite (fun _ => .inl rfl) fun _ => within

theorem obeys_checkLimits {ip email : String} {date : ℕ} (subjects : ∀ rule ∈
      [Rule.loginAddress ip, Rule.loginEmail email], rule ∈ rules ∧ rule ∉ used)
    (dated : track.date = some date) (passed : Passed limits used track) :
    ((counting rules).comap loginRateLimit).Obeys (LoginGuarded limits rules)
      (checkLimits limits.login ip email (date / 60000)) track := by
  have first := subjects (.loginAddress ip) (.head _)
  have second := subjects (.loginEmail email) (.tail _ (.head _))
  have failing {rule : Rule} (subject : rule ∈ rules) {used : List Rule} (error : GuardError)
      (final : Track) (checked : LoginChecked limits used rule date (.error error) final) :
      LoginGuarded limits rules (.error error) final := by
    cases error with
    | tooManyRequests message => exact .inl (.inr ⟨rfl, rule, subject, checked⟩)
    | accountLocked message => exact checked.elim
    | failed message => exact .inr ⟨message, rfl, checked⟩
  refine Monitor.Obeys.bind (obeys_login_checkLimit first.1 rfl rfl first.2 dated passed)
    (failing first.1) ?_
  rintro ⟨⟩ between ⟨dated, passed⟩
  refine Monitor.Follows.ite (fun _ => ?_) fun _ => .inl passed.within
  refine Monitor.Obeys.bind (obeys_login_checkLimit second.1 rfl rfl ?_ dated passed)
    (failing second.1) ?_
  · simpa using second.2
  · rintro ⟨⟩ final ⟨_, passed⟩
    exact .inl passed.within

theorem obeys_login_canActivate {req : HttpRequest} {bodyEmail : Option String}
    (toLowerCase : String → String)
    (subjects : ∀ rule ∈ [Rule.loginAddress (getClientIp req),
      Rule.loginEmail (normalizeEmail toLowerCase bodyEmail)], rule ∈ rules ∧ rule ∉ used)
    (passed : Passed limits used track) :
    ((counting rules).comap loginRateLimit).Obeys
      (fun result => Judged limits rules (loginVerdict result))
      (canActivate limits.login toLowerCase req bodyEmail) track := by
  refine ⟨True.intro, ?_⟩
  rintro _ _ ⟨now, rfl, rfl⟩
  refine ⟨True.intro, ?_⟩
  rintro ready track' ⟨_, _, rfl⟩
  cases ready with
  | false => exact obeys_checkDbAccountLock passed.within
  | true =>
      refine Monitor.Obeys.tryCatch
        (obeys_checkLimits subjects rfl ⟨passed.within, passed.used⟩) ?_ ?_
      · rintro value final (judged | ⟨_, ⟨⟩, _⟩)
        exact judged
      · rintro error between (judged | ⟨message, ⟨⟩, within⟩)
        · cases error with
          | tooManyRequests message => exact judged
          | accountLocked message => exact judged
          | failed message =>
              rcases judged with refused | ⟨refused, _⟩
              · cases refused
              · cases refused
        · exact obeys_checkDbAccountLock within

end Login

/-! ### The guard of transfers and withdrawals -/

section Transfer

open Transactions.TransferRateLimit

def TransferChecked (limits : Limits) (rule : Rule) (result : Except GuardError Unit)
    (track : Track) : Prop :=
  match result with
  | .ok () | .error (.failed _) => track.Within limits
  | .error (.tooManyRequests message) => message = rule.message ∧ track.Exceeds limits rule

theorem obeys_transfer_checkLimit {userId : String} {date : ℕ} (subject : .user userId ∈ rules)
    (fresh : .user userId ∉ used) (dated : track.date = some date)
    (passed : Passed limits used track) :
    ((counting rules).comap transferRateLimit).Obeys (TransferChecked limits (.user userId))
      (checkLimit (key userId (date / 60000)) limits.transferPerMinute) track := by
  refine ⟨⟨.user userId, subject, date, dated, rfl, rfl, fun uses => ?_⟩, ?_⟩
  · exact fresh (passed.used _ uses)
  rintro _ _ ⟨raw, rfl, positive, rfl⟩
  cases raw with
  | error message => exact (passed.count (.user userId) _ (by rintro _ ⟨⟩)).within
  | ok number =>
      refine Monitor.Follows.ite
        (fun invalid => absurd invalid (not_lt.mpr (positive number rfl)))
        fun _ => Monitor.Follows.ite (fun above => ?_) fun above => ?_
      · exact ⟨rfl, Track.exceeds_count _ (.user userId) _ above⟩
      · refine (passed.count (.user userId) _ fun count same => ?_).within
        cases same
        exact not_lt.mp above

def TransferGuarded (limits : Limits) (rules : List Rule) (result : Except GuardError Bool)
    (track : Track) : Prop :=
  Judged limits rules (transferVerdict result) track ∨
    ∃ message, result = .error (.failed message) ∧ track.Within limits

theorem obeys_checkUser {userId : String} (subject : .user userId ∈ rules)
    (fresh : .user userId ∉ used) (passed : Passed limits used track) :
    ((counting rules).comap transferRateLimit).Obeys (TransferGuarded limits rules)
      (checkUser limits.transferPerMinute userId) track := by
  refine ⟨True.intro, ?_⟩
  rintro _ _ ⟨now, rfl, rfl⟩
  refine Monitor.Obeys.bind (obeys_transfer_checkLimit subject fresh rfl
    ⟨passed.within, passed.used⟩) ?_ fun _ between within => .inl within
  rintro error final checked
  cases error with
  | tooManyRequests message => exact .inl (.inr ⟨rfl, .user userId, subject, checked⟩)
  | failed message => exact .inr ⟨message, rfl, checked⟩

theorem obeys_transfer_canActivate {userId : Option String}
    (subject : .user (userId.getD "") ∈ rules) (fresh : .user (userId.getD "") ∉ used)
    (passed : Passed limits used track) :
    ((counting rules).comap transferRateLimit).Obeys
      (fun result => Judged limits rules (transferVerdict result))
      (canActivate limits.transferPerMinute userId) track := by
  refine Monitor.Follows.ite (fun _ => passed.within) fun _ => ⟨True.intro, ?_⟩
  rintro ready track' ⟨_, _, rfl⟩
  cases ready with
  | false => exact passed.within
  | true =>
      refine Monitor.Obeys.tryCatch (obeys_checkUser subject fresh passed) ?_ ?_
      · rintro value final (judged | ⟨_, ⟨⟩, _⟩)
        exact judged
      · rintro error between (judged | ⟨message, ⟨⟩, within⟩)
        · cases error with
          | tooManyRequests message => exact judged
          | failed message =>
              rcases judged with refused | ⟨refused, _⟩
              · cases refused
              · cases refused
        · exact within

end Transfer

/-! ### The whole request -/

theorem follows_guardRoute {incoming : Incoming} (toLowerCase : String → String)
    (passed : Passed limits [incoming.address] track) :
    (counting (incoming.rules toLowerCase)).Follows
      (Judged limits (incoming.rules toLowerCase)) (guardRoute limits toLowerCase incoming)
      track := by
  rcases incoming with ⟨http, route⟩
  cases route with
  | other => exact passed.within
  | login bodyEmail =>
      refine Monitor.Follows.bind (Monitor.Follows.through
        (obeys_login_canActivate toLowerCase ?_ passed)) fun _ _ judged => judged
      intro rule member
      refine ⟨.tail _ member, fun used => ?_⟩
      cases List.mem_singleton.mp used
      simp [Incoming.address] at member
  | transaction userId =>
      refine Monitor.Follows.bind (Monitor.Follows.through
        (obeys_transfer_canActivate (.tail _ (.head _)) ?_ passed)) fun _ _ judged => judged
      simp [Incoming.address]

theorem follows_judge (limits : Limits) (toLowerCase : String → String) (incoming : Incoming) :
    (counting (incoming.rules toLowerCase)).Follows
      (Judged limits (incoming.rules toLowerCase)) (judge limits toLowerCase incoming)
      ⟨none, []⟩ := by
  have passed : Passed limits [] ⟨none, []⟩ := by
    refine ⟨fun rule minute count member => ?_, fun rule uses => ?_⟩
    · cases member
    · rcases uses with ⟨_, ⟨⟩, _⟩
  refine Monitor.Follows.bind (Monitor.Follows.through (follows_use (.head _) passed)) ?_
  intro outcome between forwards
  cases outcome with
  | next => exact follows_guardRoute toLowerCase forwards
  | respond status message => exact forwards

end Programs

/-! ## All requests -/

section Runs

variable {Thread : Type}

/-- The hits of the thread are what it has counted, as far as it was told. -/
structure Tells (thread : Thread) (track : Track) (state : State Thread) : Prop where
  read : ∀ date, track.date = some date → date ≤ state.now
  counted : ∀ hit ∈ state.counters.hits, hit.owner = thread →
    ∃ entry ∈ track.counts, entry.1 = hit.key
  told : ∀ hit ∈ state.counters.hits, hit.owner = thread → hit.told = true →
    (hit.key, some (hit.count : ℤ)) ∈ track.counts
  heard : ∀ key count, (key, some count) ∈ track.counts →
    ∃ hit ∈ state.counters.hits, hit.owner = thread ∧ hit.key = key ∧ (hit.count : ℤ) = count

/-- Every window is counted, and no request counts a key twice. -/
structure Counted (state : State Thread) : Prop where
  windows : ∀ (rule : Rule) minute,
    Counting (60000 * (minute + 1)) state.now (rule.key minute) state.counters
  sound : FixedWindow.Sound state.counters
  once : (state.counters.hits.map fun hit => (hit.key, hit.owner)).Nodup

variable {thread other : Thread} {track : Track} {state : State Thread} {key : String}
  {windowSeconds : ℕ} {told : Bool}

def State.counts (state : State Thread) (thread : Thread) (key : String) (windowSeconds : ℕ)
    (told : Bool) : State Thread :=
  { state with
    counters := state.counters.hit state.now (1000 * windowSeconds) thread told key }

theorem perform_eval (state : State Thread) (thread : Thread) (choice : Choice) (key : String)
    (windowSeconds : ℕ) :
    state.perform thread choice (.eval key windowSeconds) =
        (.ok (state.counters.next state.now (1000 * windowSeconds) key).count,
          state.counts thread key windowSeconds true) ∨
      ∃ message, state.perform thread choice (.eval key windowSeconds) = (.error message, state) ∨
        state.perform thread choice (.eval key windowSeconds) =
          (.error message, state.counts thread key windowSeconds false) := by
  rcases choice with ⟨ready, failure, executed, customer⟩
  cases failure with
  | none => exact .inl rfl
  | some message =>
      cases executed with
      | false => exact .inr ⟨message, .inl rfl⟩
      | true => exact .inr ⟨message, .inr rfl⟩

theorem Tells.count (tells : Tells thread track state) (raw : Except String ℤ)
    (answered : ∀ count, raw = .ok count ↔ told = true ∧
      count = (state.counters.next state.now (1000 * windowSeconds) key).count) :
    Tells thread (track.count key raw) (state.counts thread key windowSeconds told) where
  read := tells.read
  counted hit member owned := by
    rcases List.mem_cons.mp member with rfl | member
    · exact ⟨_, List.mem_append_right _ (List.mem_singleton.mpr rfl), rfl⟩
    · rcases tells.counted hit member owned with ⟨entry, inside, named⟩
      exact ⟨entry, List.mem_append_left _ inside, named⟩
  told hit member owned known := by
    rcases List.mem_cons.mp member with rfl | member
    · have replied := (answered _).mpr ⟨known, rfl⟩
      refine List.mem_append_right _ (List.mem_singleton.mpr ?_)
      rw [replied]
      rfl
    · exact List.mem_append_left _ (tells.told hit member owned known)
  heard name count member := by
    rcases List.mem_append.mp member with member | newest
    · rcases tells.heard name count member with ⟨hit, inside, rest⟩
      exact ⟨hit, .tail _ inside, rest⟩
    · injection List.mem_singleton.mp newest with named numbered
      cases raw with
      | error message => cases numbered
      | ok value =>
          cases numbered
          exact ⟨_, .head _, rfl, named.symm, ((answered count).mp rfl).2.symm⟩

theorem Tells.miss (tells : Tells thread track state) (message : String) :
    Tells thread (track.count key (.error message)) state where
  read := tells.read
  counted hit member owned := by
    rcases tells.counted hit member owned with ⟨entry, inside, named⟩
    exact ⟨entry, List.mem_append_left _ inside, named⟩
  told hit member owned known := List.mem_append_left _ (tells.told hit member owned known)
  heard name count member := by
    rcases List.mem_append.mp member with member | newest
    · exact tells.heard name count member
    · cases congrArg Prod.snd (List.mem_singleton.mp newest)

theorem Tells.elsewhere (tells : Tells thread track state) (different : thread ≠ other) :
    Tells thread track (state.counts other key windowSeconds told) where
  read := tells.read
  counted hit member owned := by
    rcases List.mem_cons.mp member with rfl | member
    · exact absurd owned.symm different
    · exact tells.counted hit member owned
  told hit member owned known := by
    rcases List.mem_cons.mp member with rfl | member
    · exact absurd owned.symm different
    · exact tells.told hit member owned known
  heard name count member := by
    rcases tells.heard name count member with ⟨hit, inside, rest⟩
    exact ⟨hit, .tail _ inside, rest⟩

theorem Tells.perform (rules : List Rule) (tells : Tells thread track state)
    (choice : Choice) (op : Command) : ∃ following,
      (counting rules).moves track op (state.perform thread choice op).1 following ∧
        Tells thread following (state.perform thread choice op).2 := by
  cases op with
  | isReady => exact ⟨track, rfl, tells⟩
  | lockUntil email => exact ⟨track, rfl, tells⟩
  | date =>
      refine ⟨_, rfl, ?_, tells.counted, tells.told, tells.heard⟩
      rintro date ⟨⟩
      exact le_rfl
  | eval key windowSeconds =>
      rcases perform_eval state thread choice key windowSeconds with
        performed | ⟨message, performed | performed⟩
      · rw [performed]
        refine ⟨_, ⟨fun count same => ?_, rfl⟩, tells.count _ fun count => ?_⟩
        · cases same
          exact Int.ofNat_le.mpr Counters.one_le_next
        · rw [Except.ok.injEq, eq_comm]
          exact (and_iff_right rfl).symm
      · rw [performed]
        exact ⟨_, ⟨fun count => by rintro ⟨⟩, rfl⟩, tells.miss message⟩
      · rw [performed]
        refine ⟨_, ⟨fun count => by rintro ⟨⟩, rfl⟩, tells.count _ fun count => ?_⟩
        exact iff_of_false (by rintro ⟨⟩) fun known => Bool.false_ne_true known.1

theorem Tells.performs (tells : Tells thread track state) (different : thread ≠ other)
    (choice : Choice) (op : Command) :
    Tells thread track (state.perform other choice op).2 := by
  cases op with
  | isReady | lockUntil | date => exact tells
  | eval key windowSeconds =>
      rcases perform_eval state other choice key windowSeconds with
        performed | ⟨message, performed | performed⟩
      · rw [performed]
        exact tells.elsewhere different
      · rw [performed]
        exact tells
      · rw [performed]
        exact tells.elsewhere different

theorem environment_eq {time : ℕ} {after : State Thread}
    (happened : machine.environment time state = some after) :
    state.now ≤ time ∧ after = { state with now := time } := by
  rcases Option.ite_none_right_eq_some.mp happened with ⟨passes, same⟩
  exact ⟨passes, (Option.some.inj same).symm⟩

theorem reflects (rules : Thread → List Rule) :
    Monitor.Reflects (fun thread => counting (rules thread)) machine (@Tells Thread) where
  acts := by
    intro thread track op choice before answer after tells _ performed
    have told := tells.perform (rules thread) choice op
    rwa [Option.some.inj performed] at told
  others := by
    intro thread other track op choice before answer after different tells performed
    have told := tells.performs different choice op
    rwa [Option.some.inj performed] at told
  environment tells happened := by
    rcases environment_eq happened with ⟨passes, rfl⟩
    exact ⟨fun date read => (tells.read date read).trans passes, tells.counted, tells.told,
      tells.heard⟩

theorem counted_empty (now : ℕ) : Counted (⟨now, .empty⟩ : State Thread) where
  windows _ _ := FixedWindow.counting_empty
  sound := FixedWindow.sound_empty
  once := List.nodup_nil

theorem Counted.counts {rules : List Rule} (counted : Counted state)
    (tells : Tells thread track state)
    (permits : (counting rules).permits track (.eval key windowSeconds)) :
    Counted (state.counts thread key windowSeconds told) := by
  rcases permits with ⟨rule, _, date, read, rfl, rfl, fresh⟩
  refine ⟨fun other minute => ?_, counted.sound.hit, ?_⟩
  · refine (counted.windows other minute).hit fun same => ?_
    have passed := tells.read date read
    have long : 60 ≤ rule.windowSeconds := by
      cases rule <;> simp [Rule.windowSeconds]
    rw [← (Rule.key_inj same).2]
    omega
  · refine List.nodup_cons.mpr ⟨fun member => ?_, counted.once⟩
    rcases List.mem_map.mp member with ⟨hit, inside, same⟩
    rcases tells.counted hit inside (congrArg Prod.snd same) with ⟨entry, noted, named⟩
    exact fresh ⟨entry, noted, _, named.trans (congrArg Prod.fst same)⟩

theorem Counted.perform {rules : List Rule} (counted : Counted state)
    (tells : Tells thread track state) (choice : Choice) {op : Command}
    (permits : (counting rules).permits track op) :
    Counted (state.perform thread choice op).2 := by
  cases op with
  | isReady | lockUntil | date => exact counted
  | eval key windowSeconds =>
      rcases perform_eval state thread choice key windowSeconds with
        performed | ⟨message, performed | performed⟩
      · rw [performed]
        exact counted.counts tells permits
      · rw [performed]
        exact counted
      · rw [performed]
        exact counted.counts tells permits

/-! ### Reachable configurations -/

variable [DecidableEq Thread] {limits : Limits} {toLowerCase : String → String}
  {incoming : Thread → Incoming} {current following : Config Thread}

structure Accounted (limits : Limits) (toLowerCase : String → String)
    (incoming : Thread → Incoming) (current : Config Thread) : Prop where
  tracks : Monitor.Tracks (fun thread => counting ((incoming thread).rules toLowerCase)) Tells
    (fun thread => Judged limits ((incoming thread).rules toLowerCase)) current
  counted : Counted current.shared

theorem Accounted.step (accounted : Accounted limits toLowerCase incoming current)
    {action : Action Thread Choice ℕ} (taken : machine.step current action = some following) :
    Accounted limits toLowerCase incoming following := by
  refine ⟨fun thread => ?_, ?_⟩
  · have mirrors := (reflects fun thread => (incoming thread).rules toLowerCase).mirrors thread
    exact Monitor.Tracked.step (accounted.tracks thread) mirrors (fun _ _ => True.intro) taken
  · cases action with
    | environment time =>
        rcases Machine.step_environment taken with ⟨shared, happened, rfl⟩
        rcases environment_eq happened with ⟨passes, rfl⟩
        exact ⟨fun rule minute => (accounted.counted.windows rule minute).elapse passes,
          accounted.counted.sound, accounted.counted.once⟩
    | perform thread choice =>
        rcases Machine.step_perform taken with ⟨op, next, answer, shared, program, performed, rfl⟩
        rcases accounted.tracks thread with ⟨track, tells, follows⟩
        rw [program] at follows
        have counted := accounted.counted.perform tells choice follows.1
        rwa [Option.some.inj performed] at counted

theorem Reachable.accounted (reachable : Reachable limits toLowerCase incoming current) :
    Accounted limits toLowerCase incoming current := by
  rcases reachable with ⟨now, run⟩
  refine run.invariant _ ⟨fun thread => ?_, counted_empty now⟩ ?_
  · refine ⟨⟨none, []⟩, ⟨?_, ?_, ?_, ?_⟩, follows_judge limits toLowerCase (incoming thread)⟩
    · rintro date ⟨⟩
    · rintro hit ⟨⟩
    · rintro hit ⟨⟩
    · rintro key count ⟨⟩
  · intro current action following accounted _ taken
    exact accounted.step taken

end Runs

/-! ## Admitted requests -/

section Limits

variable {Thread : Type} [DecidableEq Thread] {limits : Limits} {toLowerCase : String → String}
  {incoming : Thread → Incoming} {current : Config Thread} {thread : Thread} {rule : Rule}
  {minute : ℕ}

/-- The request is let through and was told its count of that minute, which Redis counted before
the minute ended. -/
structure Admitted (current : Config Thread) (rule : Rule) (minute : ℕ) (thread : Thread) :
    Prop where
  admitted : current.program thread = .done .admitted
  counted : ∃ hit ∈ current.shared.counters.hits, hit.owner = thread ∧
    hit.key = rule.key minute ∧ hit.told = true ∧ hit.time < 60000 * (minute + 1)

def CountedUnder (current : Config Thread) (rule : Rule) (minute : ℕ) (thread : Thread) : Prop :=
  ∃ hit ∈ current.shared.counters.hits, hit.owner = thread ∧ hit.key = rule.key minute

omit [DecidableEq Thread] in
theorem Accounted.told_le (accounted : Accounted limits toLowerCase incoming current)
    (ended : current.program thread = .done .admitted) {hit : Hit String Thread}
    (member : hit ∈ current.shared.counters.hits) (owned : hit.owner = thread)
    (named : hit.key = rule.key minute) (told : hit.told = true) :
    (hit.count : ℚ) ≤ rule.limit limits := by
  rcases accounted.tracks thread with ⟨track, tells, follows⟩
  rw [ended] at follows
  have noted := tells.told hit member owned told
  rw [named] at noted
  exact_mod_cast follows rule minute hit.count noted

/-- No more requests of one minute are admitted than the limit allows. -/
theorem admitted_le_limit (reachable : Reachable limits toLowerCase incoming current)
    (rule : Rule) (minute : ℕ) (admitted : Finset Thread)
    (each : ∀ thread ∈ admitted, Admitted current rule minute thread) :
    (admitted.card : ℚ) ≤ max 0 (rule.limit limits) := by
  have accounted := reachable.accounted
  have bound : admitted.card ≤ ⌊rule.limit limits⌋₊ := by
    apply (accounted.counted.windows rule minute).numbered.card_le
    intro thread member
    rcases each thread member with ⟨ended, hit, inside, owned, named, told, early⟩
    refine ⟨hit, List.mem_filter.mpr ⟨inside, ?_⟩, owned, ?_⟩
    · exact decide_eq_true ⟨named, early⟩
    · exact Nat.le_floor (accounted.told_le ended inside owned named told)
  rcases le_total 0 (rule.limit limits) with positive | negative
  · rw [max_eq_right positive]
    exact (Nat.cast_le.mpr bound).trans (Nat.floor_le positive)
  · rw [Nat.floor_of_nonpos negative] at bound
    rw [max_eq_left negative, Nat.le_zero.mp bound, Nat.cast_zero]

/-- A request is refused only for a lock, or when more requests than the limit allows are counted
with it. -/
theorem refused_over_limit (reachable : Reachable limits toLowerCase incoming current)
    {status : ℕ} {message : String}
    (refused : current.program thread = .done (.refused status message)) :
    status = 423 ∨ status = 429 ∧ ∃ rule ∈ (incoming thread).rules toLowerCase,
      message = rule.message ∧ ∃ minute, CountedUnder current rule minute thread ∧
        ∃ counted : Finset Thread, rule.limit limits < counted.card ∧
          ∀ other ∈ counted, CountedUnder current rule minute other := by
  have accounted := reachable.accounted
  rcases accounted.tracks thread with ⟨track, tells, judged⟩
  rw [refused] at judged
  refine judged.imp_right fun ⟨refused, rule, subject, text, minute, count, noted, above⟩ =>
    ⟨refused, rule, subject, text, minute, ?_⟩
  rcases tells.heard _ count noted with ⟨hit, inside, owned, named, rfl⟩
  rcases accounted.counted.sound.justified.exists_owners inside accounted.counted.once with
    ⟨owners, many, each⟩
  refine ⟨⟨hit, inside, owned, named⟩, owners, ?_, fun other member => ?_⟩
  · refine lt_of_lt_of_le above ?_
    exact_mod_cast many
  · rcases each other member with ⟨later, laterInside, laterOwned, laterNamed⟩
    exact ⟨later, laterInside, laterOwned, laterNamed.trans named⟩

end Limits

/-! ## Two requests under a limit of one -/

def strict : Limits where
  globalPerMinute := 1

def both (_ : Fin 3) : Incoming where
  http := { ip := some "203.0.113.9" }
  route := .other

def answering : Choice where
  ready := true
  failure := none
  executed := true
  customer := .ok none

/-- The first two of three requests, one step after the other. -/
def bothSteps : List (Action (Fin 3) Choice ℕ) :=
  [0, 1, 0, 1, 0, 1].map fun thread => .perform thread answering

def verdict? (current : Config (Fin 3)) (thread : Fin 3) : Option Verdict :=
  match current.program thread with
  | .done verdict => some verdict
  | .call _ _ => none

theorem program_of_verdict? {current : Config (Fin 3)} {thread : Fin 3} {verdict : Verdict}
    (ended : verdict? current thread = some verdict) :
    current.program thread = .done verdict := by
  unfold verdict? at ended
  split at ended
  · rename_i value program
    cases ended
    exact program
  · cases ended

/-- Whether the run led to the two verdicts and counted the first request. -/
def decided (current : Config (Fin 3)) : Bool :=
  verdict? current 0 == some .admitted &&
    (verdict? current 1 == some (.refused 429 "Too many requests. Try again later.") &&
      current.shared.counters.hits.any fun hit => hit.owner == 0 &&
        hit.key == (Rule.address "203.0.113.0").key 0 && hit.told && decide (hit.time < 60000))

private theorem both_lead : (execute machine.step (fun _ _ => true)
    (initially strict id both 0) bothSteps).any decided = true := by
  decide +kernel

theorem exists_decided : ∃ current, Reachable strict id both current ∧
    Admitted current (.address "203.0.113.0") 0 0 ∧
    current.program 1 = .done (.refused 429 "Too many requests. Try again later.") := by
  rcases exists_run_of_execute machine.step (fun _ _ => true) Unrestricted
    (fun _ _ _ => True.intro) both_lead with ⟨current, run, passed⟩
  simp only [decided, Bool.and_eq_true, beq_iff_eq, List.any_eq_true, decide_eq_true_eq] at passed
  rcases passed with ⟨first, second, hit, inside, ⟨⟨owned, named⟩, told⟩, early⟩
  exact ⟨current, ⟨0, run⟩, ⟨program_of_verdict? first, hit, inside, owned, named, told, early⟩,
    program_of_verdict? second⟩

theorem one_admitted : ∃ current : Config (Fin 3), Reachable strict id both current ∧
    Admitted current (.address "203.0.113.0") 0 0 ∧
    ((({0} : Finset (Fin 3)).card : ℚ) ≤ max 0 (strict.globalPerMinute)) := by
  rcases exists_decided with ⟨current, reachable, admitted, _⟩
  refine ⟨current, reachable, admitted,
    admitted_le_limit reachable (.address "203.0.113.0") 0 {0} fun thread member => ?_⟩
  rw [Finset.mem_singleton.mp member]
  exact admitted

theorem second_refused : ∃ current : Config (Fin 3), Reachable strict id both current ∧
    current.program 1 = .done (.refused 429 "Too many requests. Try again later.") ∧
    ∃ rule ∈ (both 1).rules id, "Too many requests. Try again later." = rule.message ∧
      ∃ minute, CountedUnder current rule minute 1 ∧
        ∃ counted : Finset (Fin 3), rule.limit strict < counted.card ∧
          ∀ other ∈ counted, CountedUnder current rule minute other := by
  rcases exists_decided with ⟨current, reachable, _, refused⟩
  exact ⟨current, reachable, refused,
    ((refused_over_limit reachable refused).resolve_left (by decide)).2⟩

end BankingBackend.Http.RateLimits
