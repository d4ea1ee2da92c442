import BankingBackend.Foundation.Execution
import BankingBackend.Fraud.Rules
import BankingBackend.Redis.Reservations

/-! # Reserving and releasing

What a sequence of evaluations and releases of one daily rule does to the keys of
one customer and day. A release gives back what its reference has reserved, except
where its marker has survived an earlier release of the reference.
-/

namespace BankingBackend

open Foundation Postgres Redis Common Fraud

/-! ## Calls of a daily rule -/

inductive DailyCall
  | evaluate (referenceId : String) (amount : ℚ)
  | releaseReservation (referenceId : String)

namespace DailyCall

/-- A release rejects nothing. -/
def program (rule : DailyLimitRule) (userId : Uuid) : DailyCall → Service RuleResult
  | .evaluate referenceId amount => rule.evaluate userId referenceId amount
  | .releaseReservation referenceId => do
      rule.releaseReservation userId referenceId
      pure none

/-- The script behind the call, in exact arithmetic. -/
def script (dailyLimit : ℚ) (keys : DailyKeys) : DailyCall → Bool × DailyKeys
  | .evaluate referenceId amount => reserveLua .exact amount dailyLimit referenceId keys
  | .releaseReservation referenceId => (true, releaseLua .exact referenceId keys)

end DailyCall

section Serving

variable {Thread : Type} [DecidableEq Thread] [Fintype Thread]

/-- A call that runs alone, with Redis answering. -/
def Serves (rule : DailyLimitRule) (userId : Uuid) (thread : Thread) (call : DailyCall)
    (before : World Thread) (result : RuleResult) (after : World Thread) : Prop :=
  ExecutesResult ((machine Thread).perform thread) (fun _ choice => choice.redis = .answered)
    (call.program rule userId) before (.ok result) after

variable {thread : Thread} {rule : DailyLimitRule} {userId : Uuid} {call : DailyCall}
  {before after : World Thread} {result : RuleResult}

def scopeOf (rule : DailyLimitRule) (userId : Uuid) (now : ℕ) : DailyScope :=
  ⟨rule.type, userId, dayBucketOf now⟩

def keysOf (rule : DailyLimitRule) (userId : Uuid) (world : World Thread) : DailyKeys :=
  world.redis.daily (scopeOf rule userId world.now)

private theorem executes_request {α : Type} {permitted : interface.Op → Choice → Prop}
    {command : Command} {next : command.Answer → Service α} {result : Except ServiceError α}
    (executes : ExecutesResult ((machine Thread).perform thread) permitted
      (request command >>= next) before result after) :
    ∃ choice answer between, permitted command choice ∧
      before.perform thread command choice = some (answer, between) ∧
      ExecutesResult ((machine Thread).perform thread) permitted (next answer) between result
        after := by
  have unfolded : (request command >>= next).run =
      .call command fun answer => (next answer).run := rfl
  unfold ExecutesResult at executes
  rw [unfolded] at executes
  cases executes with
  | call choice permits performed rest => exact ⟨choice, _, _, permits, performed, rest⟩

/-- A call answers what its script answers, and leaves its keys behind. -/
theorem Serves.script (serves : Serves rule userId thread call before result after)
    (numbers : before.redis.numbers = .exact) :
    result = (if (call.script rule.dailyLimit (keysOf rule userId before)).1 then none
        else reject rule.name) ∧
      after.now = before.now ∧ after.redis.numbers = .exact ∧
      keysOf rule userId after = (call.script rule.dailyLimit (keysOf rule userId before)).2 := by
  cases call with
  | evaluate referenceId amount =>
      rcases executes_request serves with ⟨_, now, between, _, asked, rest⟩
      cases asked
      rcases executes_request rest with ⟨choice, allowed, between, answered, evaluated, rest⟩
      have answered : choice.redis = .answered := answered
      simp only [World.perform, answered, World.evaluated, World.reserve, numbers,
        Option.some.injEq, Prod.mk.injEq] at evaluated
      rcases evaluated with ⟨rfl, rfl⟩
      cases rest
      exact ⟨rfl, rfl, numbers, Function.update_self _ _ _⟩
  | releaseReservation referenceId =>
      rcases executes_request serves with ⟨_, now, between, _, asked, rest⟩
      cases asked
      rcases executes_request rest with ⟨choice, answer, between, answered, evaluated, rest⟩
      have answered : choice.redis = .answered := answered
      simp only [World.perform, answered, World.evaluated, World.release, numbers,
        Option.some.injEq, Prod.mk.injEq] at evaluated
      rcases evaluated with ⟨rfl, rfl⟩
      cases rest
      exact ⟨rfl, rfl, numbers, Function.update_self _ _ _⟩

theorem exists_serves (rule : DailyLimitRule) (userId : Uuid) (thread : Thread) (call : DailyCall)
    (before : World Thread) :
    ∃ result after, Serves rule userId thread call before result after := by
  cases call with
  | evaluate referenceId amount =>
      exact ⟨_, _, .call {} rfl rfl (.call {} rfl rfl (.done _ _))⟩
  | releaseReservation referenceId =>
      exact ⟨_, _, .call {} rfl rfl (.call {} rfl rfl (.done _ _))⟩

end Serving

/-! ## Histories of one day -/

structure Served where
  call : DailyCall
  before : DailyKeys
  result : RuleResult
  after : DailyKeys

/-- The calls of a customer since the day began with no key, in exact arithmetic. -/
inductive History {Thread : Type} [DecidableEq Thread] [Fintype Thread] (rule : DailyLimitRule)
    (userId : Uuid) (day : ℕ) : List Served → World Thread → Prop
  | begins (morning : World Thread) (today : dayBucketOf morning.now = day)
      (numbers : morning.redis.numbers = .exact)
      (unused : keysOf rule userId morning = .empty) : History rule userId day [] morning
  | later {entries : List Served} {world : World Thread} (now : ℕ)
      (history : History rule userId day entries world) (passes : world.now ≤ now)
      (today : dayBucketOf now = day) : History rule userId day entries { world with now }
  | call {entries : List Served} {before after : World Thread} {result : RuleResult}
      (thread : Thread) (call : DailyCall) (history : History rule userId day entries before)
      (serves : Serves rule userId thread call before result after) :
      History rule userId day
        (entries ++ [⟨call, keysOf rule userId before, result, keysOf rule userId after⟩]) after

/-- An approval leaves its amount reserved; a release takes the reservation of its
reference away, from the total as well. -/
def Served.Undoes (served : Served) : Prop :=
  match served.call with
  | .evaluate referenceId amount =>
      served.result = none → served.after.reserved referenceId = some amount
  | .releaseReservation referenceId =>
      served.after.reserved referenceId = none ∧
        served.after.currentTotal =
          served.before.currentTotal - served.before.reservation referenceId

/-- An evaluation meets no reservation of another amount, and a release no marker of an
earlier one. -/
def DailyCall.Reversible (keys : DailyKeys) : DailyCall → Prop
  | .evaluate referenceId amount =>
      ∀ reserved, keys.reserved referenceId = some reserved → reserved = amount
  | .releaseReservation referenceId =>
      ∀ reserved, keys.reserved referenceId = some reserved →
        keys.released referenceId = false ∧ reserved ≤ keys.currentTotal

section Histories

variable {Thread : Type} [DecidableEq Thread] [Fintype Thread] {thread : Thread}
  {rule : DailyLimitRule} {userId : Uuid} {day : ℕ} {call : DailyCall}
  {before after world : World Thread} {result : RuleResult} {entries : List Served}

theorem Serves.undoes_iff (serves : Serves rule userId thread call before result after)
    (numbers : before.redis.numbers = .exact) :
    Served.Undoes ⟨call, keysOf rule userId before, result, keysOf rule userId after⟩ ↔
      call.Reversible (keysOf rule userId before) := by
  rcases serves.script numbers with ⟨rfl, _, _, following⟩
  rw [following]
  generalize keysOf rule userId before = keys
  cases call with
  | evaluate referenceId amount =>
      simp only [Served.Undoes, DailyCall.Reversible, DailyCall.script]
      rcases DailyKeys.reserveLua_cases .exact amount rule.dailyLimit referenceId keys with
        ⟨reserved, held, stands⟩ | ⟨free, _, refused⟩ | ⟨free, _, reserves⟩
      · simp [stands, held]
      · simp [refused, free, reject]
      · simp [reserves, free]
  | releaseReservation referenceId =>
      simp only [Served.Undoes, DailyCall.Reversible, DailyCall.script]
      rw [DailyKeys.releaseLua_undoes_iff]

theorem History.numbers (history : History rule userId day entries world) :
    world.redis.numbers = .exact := by
  induction history with
  | begins _ _ numbers => exact numbers
  | later _ _ _ _ induction => exact induction
  | call _ _ _ serves induction => exact (serves.script induction).2.2.1

theorem History.today (history : History rule userId day entries world) :
    dayBucketOf world.now = day := by
  induction history with
  | begins _ today => exact today
  | later _ _ _ today => exact today
  | call _ _ history serves induction => rw [(serves.script history.numbers).2.1, induction]

/-- The total covers the reservations of a day whose amounts are not negative. -/
theorem History.sound (history : History rule userId day entries world)
    (limit : 0 ≤ rule.dailyLimit)
    (nonneg : ∀ served ∈ entries, ∀ referenceId amount,
      served.call = .evaluate referenceId amount → 0 ≤ amount) :
    (keysOf rule userId world).Sound rule.dailyLimit ∧
      ∀ served ∈ entries, served.before.Sound rule.dailyLimit := by
  induction history with
  | begins _ _ _ unused => exact ⟨unused ▸ DailyKeys.sound_empty limit, by simp⟩
  | later now history _ today induction =>
      have sound := induction nonneg
      refine ⟨?_, sound.2⟩
      rw [keysOf, scopeOf, history.today, ← today] at sound
      exact sound.1
  | call thread call history serves induction =>
      have sound := induction fun served member => nonneg served (List.mem_append_left _ member)
      refine ⟨?_, ?_⟩
      · rw [(serves.script history.numbers).2.2.2]
        cases call with
        | evaluate referenceId amount =>
            have last := nonneg _ (List.mem_append_right _ (.head _)) referenceId amount rfl
            exact sound.1.reserve last fun _ within => ⟨le_rfl, within⟩
        | releaseReservation referenceId => exact sound.1.release sound.1.subtracts
      · intro served member
        rcases List.mem_append.mp member with old | new
        · exact sound.2 served old
        · rcases List.mem_singleton.mp new with rfl
          exact sound.1

/-- Every call of the day is undone as it should be exactly when each one finds the keys
of its reference as it expects them. -/
theorem release_undoes_reserve (history : History rule userId day entries world) :
    (∀ served ∈ entries, served.Undoes) ↔
      ∀ served ∈ entries, served.call.Reversible served.before := by
  refine forall_congr' fun served => forall_congr' fun member => ?_
  induction history with
  | begins => cases member
  | later _ _ _ _ induction => exact induction member
  | call thread call history serves induction =>
      rcases List.mem_append.mp member with old | new
      · exact induction old
      · rcases List.mem_singleton.mp new with rfl
        exact serves.undoes_iff history.numbers

end Histories

/-! ### A reference released twice -/

def keysAfter (dailyLimit : ℚ) (calls : List DailyCall) : DailyKeys :=
  calls.foldl (fun keys call => (call.script dailyLimit keys).2) .empty

theorem exists_history (rule : DailyLimitRule) (userId : Uuid) (calls : List DailyCall) :
    ∃ entries, ∃ world : World (Fin 1), History rule userId 0 entries world ∧
      entries.map Served.call = calls ∧ keysOf rule userId world = keysAfter rule.dailyLimit calls ∧
      ∀ served ∈ entries, ∃ earlier rest, calls = earlier ++ served.call :: rest ∧
        served.before = keysAfter rule.dailyLimit earlier := by
  induction calls using List.reverseRecOn with
  | nil =>
      exact ⟨[], ⟨.initial, { Store.empty with numbers := .exact }, 0⟩, .begins _ rfl rfl rfl, rfl,
        rfl, List.forall_mem_nil _⟩
  | append_singleton calls call induction =>
      rcases induction with ⟨entries, world, history, same, keys, found⟩
      rcases exists_serves rule userId 0 call world with ⟨result, after, serves⟩
      refine ⟨_, after, .call 0 call history serves, by simp [same], ?_, ?_⟩
      · rw [(serves.script history.numbers).2.2.2, keys]
        simp [keysAfter]
      · intro served member
        rcases List.mem_append.mp member with old | new
        · rcases found served old with ⟨earlier, rest, split, before⟩
          exact ⟨earlier, rest ++ [call], by simp [split], before⟩
        · rcases List.mem_singleton.mp new with rfl
          exact ⟨calls, [], rfl, keys⟩

/-- A failed attempt, and the attempt with the same reference that follows it. -/
def attempts : List DailyCall :=
  [.evaluate "first" 1, .releaseReservation "first", .evaluate "first" 1]

private theorem attempts_keys : (keysAfter 100000 attempts).reserved "first" = some 1 ∧
    (keysAfter 100000 attempts).released "first" = true := by decide +kernel

theorem second_release_keeps : ∃ entries, ∃ world : World (Fin 1),
    History (dailyWithdrawLimitExceededRule {}) ⟨7⟩ 0 entries world ∧
      ∃ served ∈ entries, served.call = .releaseReservation "first" ∧ ¬served.Undoes := by
  rcases exists_history (dailyWithdrawLimitExceededRule {}) ⟨7⟩ attempts with
    ⟨entries, world, history, _, keys, _⟩
  rcases exists_serves (dailyWithdrawLimitExceededRule {}) ⟨7⟩ 0 (.releaseReservation "first") world
    with ⟨result, after, serves⟩
  refine ⟨_, after, .call 0 _ history serves, _, List.mem_append_right _ (.head _), rfl, ?_⟩
  rw [serves.undoes_iff history.numbers, keys]
  intro reversible
  have unmarked := (reversible 1 attempts_keys.1).1
  exact absurd attempts_keys.2 (Bool.eq_false_iff.mp unmarked)

/-! ### A reference released once -/

/-- An attempt that fails, and an attempt with another reference. -/
def failedAttempt : List DailyCall :=
  [.evaluate "first" 1, .releaseReservation "first", .evaluate "second" 2]

private theorem failedAttempt_reversible {earlier rest : List DailyCall} {call : DailyCall}
    (split : failedAttempt = earlier ++ call :: rest) :
    call.Reversible (keysAfter 100000 earlier) := by
  match earlier with
  | [] =>
      cases split
      rintro reserved ⟨⟩
  | [_] =>
      cases split
      intro reserved held
      have stored : (keysAfter 100000 [.evaluate "first" 1]).reserved "first" = some 1 ∧
          (keysAfter 100000 [.evaluate "first" 1]).released "first" = false ∧
          1 ≤ (keysAfter 100000 [.evaluate "first" 1]).currentTotal := by decide +kernel
      cases stored.1.symm.trans held
      exact stored.2
  | [_, _] =>
      cases split
      intro reserved held
      have free : (keysAfter 100000 [.evaluate "first" 1, .releaseReservation "first"]).reserved
          "second" = none := by decide +kernel
      cases free.symm.trans held
  | _ :: _ :: _ :: _ =>
      have lengths := congrArg List.length split
      simp [failedAttempt] at lengths

theorem release_undoes_reserve_first : ∃ entries, ∃ world : World (Fin 1),
    History (dailyWithdrawLimitExceededRule {}) ⟨7⟩ 0 entries world ∧
      entries.map Served.call = failedAttempt ∧ ∀ served ∈ entries, served.Undoes := by
  rcases exists_history (dailyWithdrawLimitExceededRule {}) ⟨7⟩ failedAttempt with
    ⟨entries, world, history, same, _, found⟩
  refine ⟨entries, world, history, same,
    (release_undoes_reserve history).mpr fun served member => ?_⟩
  rcases found served member with ⟨earlier, rest, split, before⟩
  rw [before]
  exact failedAttempt_reversible split

end BankingBackend
