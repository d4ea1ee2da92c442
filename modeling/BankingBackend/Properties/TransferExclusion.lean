import BankingBackend.Http.Turn
import BankingBackend.Properties.Conservation

/-! # One transfer of a user at a time

Two requests of one user evaluate transfers at the same time only if the guard has let
one of them through on the key of another transaction.
-/

namespace BankingBackend.Http

open Foundation Postgres Redis Common Fraud Transactions Transactions.Controller

/-! ## The store -/

section Stores

variable {Thread : Type} {incoming : Incoming} {thread other : Thread} {turn otherTurn : Turn}
  {store after : KeyStore Thread} {command : KeyCommand} {choice : Choice}
  {answer : command.Answer}

structure Holds (incoming : Incoming) (thread : Thread) (turn : Turn) (store : KeyStore Thread) :
    Prop where
  drawn : ∀ token, turn.token = some token → store.drawn token = some thread
  lock : ∀ token, turn.lock = some token →
    store.userLock incoming.request.userId = some token ∧ store.drawn token = some thread

theorem Holds.setKey (holds : Holds incoming thread turn store) (key : IdempotencyKey)
    (stored : Option (Stored Thread)) : Holds incoming thread turn (store.setKey key stored) :=
  ⟨holds.drawn, holds.lock⟩

theorem Holds.draw (holds : Holds incoming thread turn store) {token : Uuid}
    (fresh : store.drawn token = none) : Holds incoming thread turn (store.draw other token) := by
  have kept {named : Uuid} (drawn : store.drawn named = some thread) :
      (store.draw other token).drawn named = some thread := by
    have distinct : named ≠ token := by
      rintro rfl
      cases fresh.symm.trans drawn
    rwa [KeyStore.drawn_draw, if_neg distinct]
  exact ⟨fun named held => kept (holds.drawn named held),
    fun named held => ⟨(holds.lock named held).1, kept (holds.lock named held).2⟩⟩

theorem Holds.acts (holds : Holds incoming thread turn store)
    (uses : turn.Uses incoming command) (answered : choice.redis = .answered)
    (performed : performKey thread command choice store = some (answer, after)) :
    Holds incoming thread (turn.after (.inr command) answer) after := by
  unfold performKey evaluated at performed
  simp only [answered] at performed
  cases command with
  | isReady =>
      cases performed
      exact holds
  | get key =>
      cases performed
      rcases store.idempotency key with _ | ⟨state, author⟩
      · exact holds
      · cases state
        · exact holds
        · exact ⟨holds.drawn, holds.lock⟩
  | setNX key =>
      unfold KeyStore.setNX at performed
      cases present : store.idempotency key <;> simp only [present] at performed <;>
        cases performed
      · exact holds.setKey _ _
      · exact holds
  | del key | setDone key =>
      cases performed
      exact holds.setKey _ _
  | randomUUID =>
      cases fresh : store.drawn choice.newId <;> simp only [fresh] at performed <;>
        cases performed
      refine ⟨?_, (holds.draw fresh).lock⟩
      rintro _ ⟨⟩
      rw [KeyStore.drawn_draw, if_pos rfl]
  | lockNX userId token =>
      unfold KeyStore.lockNX at performed
      cases present : store.userLock userId <;> simp only [present] at performed <;>
        cases performed
      · refine ⟨holds.drawn, ?_⟩
        rintro _ ⟨⟩
        refine ⟨?_, holds.drawn token uses.2.1⟩
        rw [KeyStore.userLock_setLock, if_pos uses.1.symm]
      · exact holds
  | unlock userId token =>
      cases performed
      refine ⟨?_, by rintro named ⟨⟩⟩
      unfold KeyStore.unlock
      split
      · exact holds.drawn
      · exact holds.drawn

theorem replies_of_answered (ready : choice.ready = true) (answered : choice.redis = .answered)
    (performed : performKey thread command choice store = some (answer, after)) :
    Replies incoming turn (.inr command) answer := by
  unfold performKey evaluated at performed
  simp only [answered] at performed
  cases command with
  | isReady =>
      cases performed
      exact ready
  | randomUUID => trivial
  | _ =>
      cases performed
      exact Option.some_ne_none _

/-- Only a key that is done settles a request. -/
theorem settled_after (answered : choice.redis = .answered)
    (performed : performKey thread command choice store = some (answer, after))
    (settled : (turn.after (.inr command) answer).settled = true) :
    turn.settled = true ∨ ∃ key, command = .get key ∧
      (store.idempotency key).map Stored.state = some .done := by
  cases command with
  | get key =>
      unfold performKey evaluated at performed
      simp only [answered] at performed
      cases performed
      rcases present : store.idempotency key with _ | ⟨state, author⟩
      · rw [present] at settled
        exact .inl settled
      · cases state
        · rw [present] at settled
          exact .inl settled
        · exact .inr ⟨key, rfl, by rw [present]; rfl⟩
  | lockNX userId token =>
      rcases answer with _ | _ | _ <;> exact .inl settled
  | _ => exact .inl settled

theorem evaluating_after (turn : Turn) (command : KeyCommand) (answer : command.Answer) :
    (turn.after (.inr command) answer).evaluating = turn.evaluating := by
  cases command with
  | get key => rcases answer with _ | _ | _ | _ <;> rfl
  | lockNX userId token => rcases answer with _ | _ | _ <;> rfl
  | _ => rfl

theorem Holds.others (holds : Holds incoming thread turn store) {otherIncoming : Incoming}
    (otherHolds : Holds otherIncoming other otherTurn store) (different : thread ≠ other)
    (uses : otherTurn.Uses otherIncoming command) (answered : choice.redis = .answered)
    (performed : performKey other command choice store = some (answer, after)) :
    Holds incoming thread turn after := by
  unfold performKey evaluated at performed
  simp only [answered] at performed
  cases command with
  | isReady | get =>
      cases performed
      exact holds
  | setNX key =>
      unfold KeyStore.setNX at performed
      cases present : store.idempotency key <;> simp only [present] at performed <;>
        cases performed
      · exact holds.setKey _ _
      · exact holds
  | del key | setDone key =>
      cases performed
      exact holds.setKey _ _
  | randomUUID =>
      cases fresh : store.drawn choice.newId <;> simp only [fresh] at performed <;>
        cases performed
      exact holds.draw fresh
  | lockNX userId token =>
      unfold KeyStore.lockNX at performed
      cases present : store.userLock userId <;> simp only [present] at performed <;>
        cases performed
      · refine ⟨holds.drawn, fun named held => ⟨?_, (holds.lock named held).2⟩⟩
        have distinct : incoming.request.userId ≠ userId := by
          rintro rfl
          cases present.symm.trans (holds.lock named held).1
        rw [KeyStore.userLock_setLock, if_neg distinct]
        exact (holds.lock named held).1
      · exact holds
  | unlock userId token =>
      cases performed
      unfold KeyStore.unlock
      split
      · rename_i present
        refine ⟨holds.drawn, fun named held => ⟨?_, (holds.lock named held).2⟩⟩
        have distinct : incoming.request.userId ≠ userId := by
          rintro rfl
          have same := Option.some.inj ((holds.lock named held).1.symm.trans present)
          have own := (holds.lock named held).2
          rw [same, (otherHolds.lock token uses.2).2] at own
          exact different (Option.some.inj own).symm
        rw [KeyStore.userLock_setLock, if_neg distinct]
        exact (holds.lock named held).1
      · exact holds

end Stores

/-! ## Every run -/

section Runs

variable {Thread : Type} [DecidableEq Thread] [Fintype Thread] {config : FraudConfig}
  {incoming : Thread → Incoming} {first second : Thread} {current : SiteConfiguration Thread}

theorem perform_rows {thread : Thread} {before after : World Thread} {command : Command}
    {choice : Choice} {answer : command.Answer}
    (performed : before.perform thread command choice = some (answer, after)) :
    ∃ rows, after.server.database.transactions = before.server.database.transactions ++ rows := by
  have same {world : World Thread} (unchanged : world.server = before.server) :
      ∃ rows, world.server.database.transactions = before.server.database.transactions ++ rows :=
    ⟨[], by rw [unchanged, List.append_nil]⟩
  cases command with
  | query statement =>
      rcases Option.map_eq_some_iff.mp performed with ⟨⟨reply, server⟩, done, equal⟩
      cases equal
      exact (Server.perform_performs done).rows
  | isReady | now =>
      cases performed
      exact same rfl
  | evalReserve scope referenceId amount dailyLimit =>
      unfold World.perform World.evaluated at performed
      cases outcome : choice.redis <;> simp only [outcome] at performed <;> cases performed <;>
        exact same rfl
  | evalRelease scope referenceId =>
      unfold World.perform World.evaluated at performed
      cases outcome : choice.redis <;> simp only [outcome] at performed <;> cases performed <;>
        exact same rfl
  | evalIncrementMinute scope =>
      unfold World.perform World.evaluated at performed
      cases outcome : choice.redis <;> simp only [outcome] at performed <;> cases performed <;>
        exact same rfl

def Committed (incoming : Incoming) (host : Host Thread) : Prop :=
  ∀ params, incoming.request.params? = some params →
    ∃ row, host.world.server.database.transactions.find? (·.key == params.key) = some row

/-- A transfer that finds its key done has its own transaction committed. -/
def Meant (incoming : Incoming) (host : Host Thread) (op : gatewayInterface.Op) : Prop :=
  ∀ key, op = .inr (.get key) → incoming.Transfers →
    (host.keys.idempotency key).map Stored.state = some .done → Committed incoming host

/-- What the shared state has of the turn of a request. -/
structure Turns (incoming : Incoming) (thread : Thread) (turn : Turn) (host : Host Thread) :
    Prop where
  holds : Holds incoming thread turn host.keys
  settled : turn.settled = true → incoming.Transfers → Committed incoming host
  evaluating : host.evaluating thread = true → turn.evaluating = true

theorem Committed.mono {incoming : Incoming} {thread : Thread} {before after : Host Thread}
    {command : Command} {choice : Choice} {answer : command.Answer}
    (committed : Committed incoming before)
    (performed : before.world.perform thread command choice = some (answer, after.world)) :
    Committed incoming after := by
  rcases perform_rows performed with ⟨rows, appended⟩
  intro params asks
  rcases committed params asks with ⟨row, found⟩
  exact ⟨row, by rw [appended, List.find?_append, found, Option.some_or]⟩

theorem Turns.replies {incoming : Incoming} {thread : Thread} {turn : Turn}
    {before : Host Thread} {after : World Thread} {command : Command} {choice : Choice}
    {answer : command.Answer} (turns : Turns incoming thread turn before)
    (decided : ∀ row ∈ before.world.server.database.transactions, Decided row)
    (performed : before.world.perform thread command choice = some (answer, after)) :
    Replies incoming turn (.inl command) answer := by
  cases command with
  | query statement =>
      cases statement with
      | transactionFindFirst key =>
          intro settled transfers params asks same
          rcases turns.settled settled transfers params asks with ⟨row, found⟩
          rw [← same] at found
          have matched := List.find?_some found
          have rowKey : row.key = params.key := (eq_of_beq matched).trans same
          rcases (perform_lookup found performed).2 with answered | ⟨_, error, failed⟩
          · exact .inr ⟨row, decided row (List.mem_of_find?_eq_some found), rowKey, answered⟩
          · exact .inl ⟨error, failed⟩
      | _ => trivial
  | _ => trivial

theorem turns_shares :
    Monitor.Shares (fun thread => turnMonitor (incoming thread)) (gateway Thread)
      (fun host => ∀ row ∈ host.world.server.database.transactions, Decided row)
      (fun thread op choice host =>
        (choice.ready = true ∧ choice.redis = .answered) ∧ Meant (incoming thread) host op)
      (fun event => RedisAnswers (.environment event : SiteLabel Thread))
      (fun thread => Turns (incoming thread) thread) where
  acts {thread turn op choice before answer after} decided turns permits permitted performed := by
    cases op with
    | inl command =>
        rcases Option.map_eq_some_iff.mp performed with ⟨⟨reply, world⟩, done, equal⟩
        cases equal
        refine ⟨_, ⟨rfl, turns.replies decided done⟩,
          ⟨turns.holds.drawn, turns.holds.lock⟩, ?_, ?_⟩
        · exact fun settled transfers => (turns.settled settled transfers).mono done
        · intro evaluating
          simp only [Function.update_self, Bool.or_eq_true] at evaluating
          simp only [Turn.after, Bool.or_eq_true]
          exact evaluating.imp_left turns.evaluating
    | inr command =>
        rcases Option.map_eq_some_iff.mp performed with ⟨⟨reply, keys⟩, done, equal⟩
        cases equal
        rcases permitted with ⟨⟨ready, answered⟩, meant⟩
        refine ⟨_, ⟨rfl, replies_of_answered ready answered done⟩,
          turns.holds.acts (permits.2 command rfl) answered done, ?_, ?_⟩
        · intro settled transfers
          rcases settled_after answered done settled with before | ⟨key, named, present⟩
          · exact turns.settled before transfers
          · exact meant key (congrArg Sum.inr named) transfers present
        · exact fun evaluating =>
            (evaluating_after turn command answer).trans (turns.evaluating evaluating)
  others {thread other turn otherTurn op choice before answer after} different turns otherTurns
      permits permitted performed := by
    cases op with
    | inl command =>
        rcases Option.map_eq_some_iff.mp performed with ⟨⟨reply, world⟩, done, equal⟩
        cases equal
        refine ⟨turns.holds, fun settled transfers => (turns.settled settled transfers).mono done, ?_⟩
        simp only [Function.update_of_ne different]
        exact turns.evaluating
    | inr command =>
        rcases Option.map_eq_some_iff.mp performed with ⟨⟨reply, keys⟩, done, equal⟩
        cases equal
        exact ⟨turns.holds.others otherTurns.holds different (permits.2 command rfl) permitted.1.2
          done, turns.settled, turns.evaluating⟩
  environment {thread turn event before after} turns passes happened := by
    cases event with
    | world occurrence =>
        rcases Option.map_eq_some_iff.mp happened with ⟨world, occurred, rfl⟩
        refine ⟨turns.holds, fun settled transfers params asks => ?_, turns.evaluating⟩
        rw [environment_server occurred]
        exact turns.settled settled transfers params asks
    | expire expiry => exact passes.elim

/-- The request is between the start of its evaluation and its end, which follows the release of
its lock. -/
structure Transferring (incoming : Thread → Incoming) (current : SiteConfiguration Thread)
    (thread : Thread) : Prop where
  transfers : (incoming thread).Transfers
  evaluating : current.shared.evaluating thread = true
  unfinished : (current.program thread).finished = false

/-- The steps in which Redis answers and no transfer takes another's key for its own. -/
def MeansOwn (incoming : Thread → Incoming) (current : SiteConfiguration Thread)
    (label : SiteLabel Thread) : Prop :=
  RedisAnswers label ∧ ∀ thread choice op next, label = .perform thread choice →
    current.program thread = .call op next → Meant (incoming thread) current.shared op

theorem Attained.turns (attained : Attained config incoming (MeansOwn incoming) current) :
    Monitor.Tracks (fun thread => turnMonitor (incoming thread))
      (fun thread => Turns (incoming thread) thread) (fun _ (_ : CallResult) _ => True) current := by
  refine attained.invariant _ (fun _ _ thread => ⟨{}, ?_, turn_program config _⟩) ?_
  · exact ⟨⟨by rintro token ⟨⟩, by rintro token ⟨⟩⟩, by rintro ⟨⟩, by rintro ⟨⟩⟩
  · intro between label next attained tracks allows taken
    refine tracks.step turns_shares (fun row member => attained.decided member) ?_ ?_ taken
    · rintro thread choice op next rfl program
      exact ⟨allows.1, allows.2 thread choice op next rfl program⟩
    · rintro event rfl
      exact allows.1

/-- Two requests of one user that are transferring are one. -/
theorem transfers_exclusive (attained : Attained config incoming (MeansOwn incoming) current)
    (one : Transferring incoming current first) (other : Transferring incoming current second)
    (user : (incoming first).request.userId = (incoming second).request.userId) :
    first = second := by
  have locked (thread : Thread) (transferring : Transferring incoming current thread) :
      ∃ token, current.shared.keys.userLock (incoming thread).request.userId = some token ∧
        current.shared.keys.drawn token = some thread := by
    rcases attained.turns thread with ⟨turn, turns, follows⟩
    cases program : current.program thread with
    | done result =>
        have unfinished := transferring.unfinished
        rw [program] at unfinished
        cases unfinished
    | call op next =>
        rw [program] at follows
        have covered := follows.1.1 transferring.transfers
          (turns.evaluating transferring.evaluating)
        rcases Option.ne_none_iff_exists'.mp covered with ⟨token, held⟩
        exact ⟨token, turns.holds.lock token held⟩
  rcases locked first one with ⟨token, present, drawn⟩
  rcases locked second other with ⟨otherToken, otherPresent, otherDrawn⟩
  rw [user, otherPresent] at present
  rw [← Option.some.inj present, otherDrawn] at drawn
  exact (Option.some.inj drawn).symm

end Runs

/-! ## Two transfers of one user -/

def transferSubmission (referenceId : String) : Submission where
  route := .transfer
  userId := ⟨7⟩
  body := some (.object [("amount", .number (.finite 1)), ("referenceId", .string referenceId),
    ("toAccountId", .string euroText), ("fromAccountId", .string sampleText)])

def readsNone {Thread : Type} (current : SiteConfiguration Thread) (label : SiteLabel Thread) :
    Bool :=
  answering current label &&
    match label with
    | .environment _ => true
    | .perform thread _ =>
        match current.program thread with
        | .call (.inr (.get _)) _ => false
        | _ => true

theorem meansOwn_of_readsNone {Thread : Type} {incoming : Thread → Incoming}
    {current : SiteConfiguration Thread} {label : SiteLabel Thread}
    (passed : readsNone current label = true) : MeansOwn incoming current label := by
  rcases Bool.and_eq_true_iff.mp passed with ⟨answers, reads⟩
  refine ⟨of_decide_eq_true answers, ?_⟩
  rintro thread choice op next rfl program key rfl
  simp only [program] at reads
  cases reads

def concurrentIncoming : Fin 2 → Incoming
  | 0 => .posts (transferSubmission "first")
  | 1 => .posts (transferSubmission "second")

private theorem concurrent_leads : siteLeadsTo {} concurrentIncoming readsNone
    ([actSite 0, actSite 0, actSite 0 1, actSite 0, actSite 0] ++
      [actSite 1, actSite 1, actSite 1 2, actSite 1])
    (fun current => current.shared.evaluating 0 && !(current.program 0).finished) = true := by
  decide +kernel

/-- While the first transfer is evaluated the second one is not. -/
theorem transfers_exclusive_concurrent : ∃ current,
    Attained {} concurrentIncoming (MeansOwn concurrentIncoming) current ∧
      Transferring concurrentIncoming current 0 ∧ ¬Transferring concurrentIncoming current 1 := by
  rcases exists_attained (fun _ _ => meansOwn_of_readsNone) concurrent_leads with
    ⟨current, attained, passed⟩
  rcases Bool.and_eq_true_iff.mp passed with ⟨evaluating, unfinished⟩
  have transferring : Transferring concurrentIncoming current 0 :=
    ⟨rfl, evaluating, by simpa using unfinished⟩
  refine ⟨current, attained, transferring, fun other => ?_⟩
  exact absurd (transfers_exclusive attained transferring other rfl) (by decide)

/-- The last transfer has the reference of the first one followed by a blank. -/
def blankIncoming : Fin 6 → Incoming
  | 0 => .calls { userId := ⟨7⟩, operation := .createAccount ⟨.USD⟩ } rfl
  | 1 => .calls { userId := ⟨7⟩, operation := .createAccount ⟨.EUR⟩ } rfl
  | 2 => .posts { route := .deposit
                  userId := ⟨7⟩
                  body := some (.object [("amount", .number (.finite 5)),
                    ("referenceId", .string "deposit"), ("toAccountId", .string sampleText)]) }
  | 3 => .posts (transferSubmission "ref")
  | 4 => .posts (transferSubmission "other")
  | 5 => .posts (transferSubmission "ref ")

/-- The first transfer ends before the others begin. -/
def blankSteps : List (SiteLabel (Fin 6)) :=
  [actSite 0, actSite 0 sampleId, actSite 0, actSite 1, actSite 1 euroId, actSite 1] ++
    List.replicate 11 (actSite 2) ++ List.replicate 21 (actSite 3 1) ++
    List.replicate 5 (actSite 4 2) ++ List.replicate 4 (actSite 5)

private theorem blank_transfers : siteLeadsTo {} blankIncoming answering blankSteps
    (fun current => (current.shared.evaluating 4 && !(current.program 4).finished) &&
      (current.shared.evaluating 5 && !(current.program 5).finished)) = true := by
  decide +kernel

theorem blank_concurrent : ∃ current, Attained {} blankIncoming (fun _ => RedisAnswers) current ∧
    (blankIncoming 4).request.userId = (blankIncoming 5).request.userId ∧
    Transferring blankIncoming current 4 ∧ Transferring blankIncoming current 5 := by
  rcases exists_attained (fun _ _ passed => of_decide_eq_true passed) blank_transfers with
    ⟨current, attained, passed⟩
  simp only [Bool.and_eq_true, Bool.not_eq_true'] at passed
  rcases passed with ⟨⟨evaluating, unfinished⟩, otherEvaluating, otherUnfinished⟩
  exact ⟨current, attained, rfl, ⟨rfl, evaluating, unfinished⟩,
    ⟨rfl, otherEvaluating, otherUnfinished⟩⟩

end BankingBackend.Http
