import BankingBackend.Messaging.Handling

/-! # Where the copies of a message are

A retry is published to the exchange again, with its attempts counted. While no retry
reaches a second queue, each consumer has at most one copy of the message, and has
dispatched it no more often than the copy has been attempted.
-/

namespace BankingBackend.Messaging

open Foundation

section Runs

variable {Worker : Type}

/-- How often a consumer has gone on to dispatch the message. -/
def State.dispatched (state : State Worker) (config : ConsumerConfig) (msg : Message)
    (consumer : Consumer) : ℕ :=
  state.dispatches.countP fun dispatch =>
    dispatch.1 == consumer && some dispatch.2 == keyOf config msg

def State.Published (state : State Worker) (config : ConsumerConfig) (msg : Message) : Prop :=
  ∃ earlier ∈ state.published, keyOf config earlier = keyOf config msg

variable [DecidableEq Worker]

/-- The message is published at most once, and none of its deliveries goes back to the
queue. -/
def publishedOnce (config : ConsumerConfig) (msg : Message) : Condition Worker where
  happens event state :=
    match event with
    | .publish other =>
        keyOf config other = keyOf config msg → other = msg ∧ ¬state.Published config msg
    | .crash worker | .disconnect worker =>
        ∀ copy ∈ (state.handling worker).message, (state.handling worker).unacked = true →
          keyOf config copy ≠ keyOf config msg
    | .tick _ => True

structure Retryable (config : ConsumerConfig) (msg : Message) : Prop where
  parsed : (keyOf config msg).isSome = true
  addressed : msg.exchange ≠ "" ∧ msg.routingKey ≠ ""
  remain : getConsumeMessageAttempts msg + 1 ≤ config.maxRetries

/-! ## Copies of a message -/

structure Copy (config : ConsumerConfig) (msg copy : Message) : Prop where
  exchange : copy.exchange = msg.exchange
  routingKey : copy.routingKey = msg.routingKey
  key : keyOf config copy = keyOf config msg
  attempts : getConsumeMessageAttempts copy = getConsumeMessageAttempts msg ∨
    getConsumeMessageAttempts msg ≤ getConsumeMessageAttempts copy ∧
      getConsumeMessageAttempts copy ≤ config.maxRetries

section Copies

variable {config : ConsumerConfig} {msg copy : Message}

theorem Copy.refl (config : ConsumerConfig) (msg : Message) : Copy config msg msg :=
  ⟨rfl, rfl, rfl, .inl rfl⟩

theorem Copy.retry (alike : Copy config msg copy)
    (remain : getConsumeMessageAttempts copy + 1 ≤ config.maxRetries) :
    Copy config msg (copy.retry (getConsumeMessageAttempts copy + 1)) where
  exchange := alike.exchange
  routingKey := alike.routingKey
  key := (keyOf_retry _).trans alike.key
  attempts := by
    have attempts := alike.attempts
    rw [getConsumeMessageAttempts_retry]
    omega

theorem Copy.routes (alike : Copy config msg copy) (topology : Topology) :
    topology.routes copy = topology.routes msg := by
  funext consumer
  simp only [Topology.routes, alike.exchange, alike.routingKey]

theorem Copy.retryable (alike : Copy config msg copy) (retryable : Retryable config copy) :
    Retryable config msg where
  parsed := by
    rw [← alike.key]
    exact retryable.parsed
  addressed := by
    rw [← alike.exchange, ← alike.routingKey]
    exact retryable.addressed
  remain := by
    have remain := retryable.remain
    have attempts := alike.attempts
    omega

end Copies

/-! ## Where the message is -/

def State.copies (state : State Worker) (config : ConsumerConfig) (msg : Message)
    (consumer : Consumer) : List Message :=
  (state.queue consumer).filter fun copy => keyOf config copy == keyOf config msg

/-- A worker of the consumer has still to complete, retry or reject a copy. -/
structure State.Holds (state : State Worker) (deployment : Deployment Worker) (msg : Message)
    (consumer : Consumer) (worker : Worker) (copy : Message) : Prop where
  mine : deployment.consumers worker = consumer
  message : (state.handling worker).message = some copy
  key : keyOf deployment.config copy = keyOf deployment.config msg
  pending : (state.handling worker).progress.pending = true

/-- The only copy that a consumer has, and how many of its attempts it has used. -/
structure Sole (deployment : Deployment Worker) (msg : Message) (state : State Worker)
    (consumer : Consumer) (copy : Message) (started : ℕ) : Prop where
  published : state.Published deployment.config msg
  alike : Copy deployment.config msg copy
  routed : deployment.config.topology.routes msg consumer = true
  spent : state.dispatched deployment.config msg consumer + getConsumeMessageAttempts msg ≤
    getConsumeMessageAttempts copy + started

/-- A consumer has at most one copy of the message: in its queue or with one of its workers. -/
inductive Placed (deployment : Deployment Worker) (msg : Message) (state : State Worker)
    (consumer : Consumer) : Prop
  | unpublished (unpublished : ¬state.Published deployment.config msg)
      (absent : state.copies deployment.config msg consumer = [])
      (unheld : ∀ worker copy, ¬state.Holds deployment msg consumer worker copy)
      (undispatched : state.dispatched deployment.config msg consumer = 0)
  | queued (copy : Message) (sole : Sole deployment msg state consumer copy 0)
      (queued : state.copies deployment.config msg consumer = [copy])
      (unheld : ∀ worker copy, ¬state.Holds deployment msg consumer worker copy)
  | held (worker : Worker) (copy : Message)
      (sole : Sole deployment msg state consumer copy
        (if (state.handling worker).progress = .received then 0 else 1))
      (absent : state.copies deployment.config msg consumer = [])
      (holds : state.Holds deployment msg consumer worker copy)
      (alone : ∀ other another, state.Holds deployment msg consumer other another → other = worker)
  | gone (published : state.Published deployment.config msg)
      (absent : state.copies deployment.config msg consumer = [])
      (unheld : ∀ worker copy, ¬state.Holds deployment msg consumer worker copy)
      (spent : state.dispatched deployment.config msg consumer ≤ deployment.config.maxRetries + 1)

variable {deployment : Deployment Worker} {msg copy : Message} {before after : State Worker}
  {worker : Worker} {consumer : Consumer}

omit [DecidableEq Worker] in
theorem Sole.bounded {started : ℕ} (sole : Sole deployment msg before consumer copy started)
    (once : started ≤ 1) :
    before.dispatched deployment.config msg consumer ≤ deployment.config.maxRetries + 1 := by
  have spent := sole.spent
  have attempts := sole.alike.attempts
  omega

omit [DecidableEq Worker] in
theorem Placed.bounded (placed : Placed deployment msg before consumer) :
    before.dispatched deployment.config msg consumer ≤ deployment.config.maxRetries + 1 := by
  cases placed with
  | unpublished unpublished absent unheld undispatched => omega
  | queued copy sole queued unheld => exact sole.bounded (by omega)
  | held worker copy sole absent holds alone =>
      refine sole.bounded ?_
      split <;> omega
  | gone published absent unheld spent => exact spent

/-! ### Steps that leave the message where it is -/

/-- Neither the queue of the consumer nor what it has dispatched has changed for the message. -/
structure Still (deployment : Deployment Worker) (msg : Message) (before after : State Worker)
    (consumer : Consumer) : Prop where
  copies : after.copies deployment.config msg consumer =
    before.copies deployment.config msg consumer
  dispatched : after.dispatched deployment.config msg consumer =
    before.dispatched deployment.config msg consumer
  published : after.Published deployment.config msg ↔ before.Published deployment.config msg

omit [DecidableEq Worker] in
theorem Sole.still {started : ℕ} (sole : Sole deployment msg before consumer copy started)
    (still : Still deployment msg before after consumer) :
    Sole deployment msg after consumer copy started where
  published := still.published.mpr sole.published
  alike := sole.alike
  routed := sole.routed
  spent := by
    rw [still.dispatched]
    exact sole.spent

omit [DecidableEq Worker] in
theorem Placed.still (placed : Placed deployment msg before consumer)
    (still : Still deployment msg before after consumer)
    (holds : ∀ worker copy, after.Holds deployment msg consumer worker copy →
      before.Holds deployment msg consumer worker copy ∧
        ((after.handling worker).progress = .received →
          (before.handling worker).progress = .received)) :
    Placed deployment msg after consumer := by
  have unheld (nobody : ∀ worker copy, ¬before.Holds deployment msg consumer worker copy)
      (worker : Worker) (copy : Message) : ¬after.Holds deployment msg consumer worker copy :=
    fun held => nobody worker copy (holds worker copy held).1
  cases placed with
  | unpublished unpublished absent nobody undispatched =>
      exact .unpublished (fun published => unpublished (still.published.mp published))
        (still.copies.trans absent) (unheld nobody) (still.dispatched.trans undispatched)
  | queued copy sole queued nobody =>
      exact .queued copy (sole.still still) (still.copies.trans queued) (unheld nobody)
  | held worker copy sole absent held alone =>
      by_cases keeps : ∃ another, after.Holds deployment msg consumer worker another
      · rcases keeps with ⟨another, keeps⟩
        have earlier := holds worker another keeps
        have same : another = copy :=
          Option.some.inj (earlier.1.message.symm.trans held.message)
        subst another
        refine .held worker copy ⟨still.published.mpr sole.published, sole.alike, sole.routed, ?_⟩
          (still.copies.trans absent) keeps
          fun other another holding => alone other another (holds other another holding).1
        have spent := sole.spent
        rw [still.dispatched]
        by_cases received : (after.handling worker).progress = .received
        · rw [if_pos received]
          rwa [if_pos (earlier.2 received)] at spent
        · rw [if_neg received]
          split at spent <;> omega
      · refine .gone (still.published.mpr sole.published) (still.copies.trans absent) ?_ ?_
        · intro other another holding
          have same := alone other another (holds other another holding).1
          subst other
          exact keeps ⟨another, holding⟩
        · rw [still.dispatched]
          exact (Placed.held worker copy sole absent held alone).bounded
  | gone published absent nobody spent =>
      refine .gone (still.published.mpr published) (still.copies.trans absent) (unheld nobody) ?_
      rwa [still.dispatched]

omit [DecidableEq Worker] in
theorem State.Holds.of_handling (held : after.Holds deployment msg consumer worker copy)
    (same : after.handling worker = before.handling worker) :
    before.Holds deployment msg consumer worker copy where
  mine := held.mine
  message := same ▸ held.message
  key := held.key
  pending := same ▸ held.pending

omit [DecidableEq Worker] in
theorem Placed.rests (placed : Placed deployment msg before consumer)
    (still : Still deployment msg before after consumer)
    (others : ∀ other, other ≠ worker → after.handling other = before.handling other)
    (own : ∀ copy, after.Holds deployment msg consumer worker copy →
      before.Holds deployment msg consumer worker copy ∧
        ((after.handling worker).progress = .received →
          (before.handling worker).progress = .received)) :
    Placed deployment msg after consumer := by
  refine placed.still still fun other copy held => ?_
  by_cases same : other = worker
  · subst other
    exact own copy held
  · rw [others other same]
    exact ⟨held.of_handling (others other same), id⟩

/-! ### Steps that move the message -/

omit [DecidableEq Worker] in
/-- The copy that a worker holds is the only one of its consumer. -/
theorem Placed.of_holds (placed : Placed deployment msg before consumer)
    (holds : before.Holds deployment msg consumer worker copy) :
    Sole deployment msg before consumer copy
        (if (before.handling worker).progress = .received then 0 else 1) ∧
      before.copies deployment.config msg consumer = [] ∧
      ∀ other another, before.Holds deployment msg consumer other another → other = worker := by
  cases placed with
  | unpublished unpublished absent unheld undispatched => exact absurd holds (unheld worker copy)
  | queued another sole queued unheld => exact absurd holds (unheld worker copy)
  | held holder another sole absent held alone =>
      have same : worker = holder := alone worker copy holds
      subst holder
      have equal : another = copy := Option.some.inj (held.message.symm.trans holds.message)
      subst another
      exact ⟨sole, absent, alone⟩
  | gone published absent unheld spent => exact absurd holds (unheld worker copy)

omit [DecidableEq Worker] in
theorem copies_of_queue (same : after.queue consumer = before.queue consumer) :
    after.copies deployment.config msg consumer =
      before.copies deployment.config msg consumer := by
  rw [State.copies, same]
  rfl

omit [DecidableEq Worker] in
theorem copies_enqueue (state : State Worker) (config : ConsumerConfig) (msg own : Message)
    (consumer : Consumer) :
    (state.enqueue config.topology own).copies config msg consumer =
      state.copies config msg consumer ++
        if config.topology.routes own consumer = true ∧ keyOf config own = keyOf config msg then
          [own]
        else [] := by
  simp only [State.copies, State.enqueue]
  by_cases routed : config.topology.routes own consumer = true
  · by_cases same : keyOf config own = keyOf config msg
    · simp [routed, same]
    · simp [routed, same]
  · simp [routed]

theorem filter_eraseIdx {α : Type} {values : List α} {position : ℕ} {value : α}
    (found : values[position]? = some value) (test : α → Bool) :
    ∃ front back, values.filter test = front ++ [value].filter test ++ back ∧
      (values.eraseIdx position).filter test = front ++ back := by
  rcases List.getElem?_eq_some_iff.mp found with ⟨bound, rfl⟩
  refine ⟨(values.take position).filter test, (values.drop (position + 1)).filter test, ?_, ?_⟩
  · rw [← List.filter_append, ← List.filter_append, List.append_assoc, List.singleton_append,
      List.getElem_cons_drop, List.take_append_drop]
  · rw [← List.filter_append, List.eraseIdx_eq_take_drop_succ]

theorem Placed.receives (placed : Placed deployment msg before consumer) {position : ℕ}
    {own : Message}
    (queued : (before.queue (deployment.consumers worker))[position]? = some own) :
    Placed deployment msg (before.receive worker (deployment.consumers worker) position own)
      consumer := by
  rcases filter_eraseIdx queued fun copy =>
    keyOf deployment.config copy == keyOf deployment.config msg with ⟨front, back, held, left⟩
  by_cases mine : deployment.consumers worker = consumer ∧
      keyOf deployment.config own = keyOf deployment.config msg
  · rcases mine with ⟨rfl, same⟩
    have present : before.copies deployment.config msg (deployment.consumers worker) =
        front ++ own :: back := by simpa [State.copies, same] using held
    have remain : (before.receive worker (deployment.consumers worker) position own).copies
        deployment.config msg (deployment.consumers worker) = front ++ back := by
      simpa [State.copies, State.receive] using left
    cases placed with
    | unpublished unpublished absent unheld undispatched => simp [present] at absent
    | held holder another sole absent holds alone => simp [present] at absent
    | gone published absent unheld spent => simp [present] at absent
    | queued copy sole queued unheld =>
        rw [present, List.append_eq_singleton_iff] at queued
        rcases queued with ⟨rfl, only⟩ | ⟨_, only⟩
        · cases only
          refine .held worker own ⟨sole.published, sole.alike, sole.routed, ?_⟩ remain ?_ ?_
          · have spent := sole.spent
            simpa [State.receive, State.dispatched] using spent
          · exact ⟨rfl, by simp [State.receive], same,
              by simp [State.receive, Progress.pending]⟩
          · intro other another holds
            by_contra different
            exact unheld other another (holds.of_handling (Function.update_of_ne different _ _))
        · cases only
  · have others : ∀ other, other ≠ worker →
        (before.receive worker (deployment.consumers worker) position own).handling other =
          before.handling other := fun other different => Function.update_of_ne different _ _
    refine placed.rests ⟨?_, rfl, .rfl⟩ others fun copy holds => ?_
    · by_cases here : deployment.consumers worker = consumer
      · subst here
        have other : keyOf deployment.config own ≠ keyOf deployment.config msg :=
          fun same => mine ⟨rfl, same⟩
        simp only [List.filter_singleton, beq_eq_false_iff_ne.mpr other, Bool.cond_false,
          List.append_nil] at held
        simp only [State.copies, State.receive, State.setHandling_queue, Function.update_self]
        exact left.trans held.symm
      · exact copies_of_queue (Function.update_of_ne (Ne.symm here) _ _)
    · have message := holds.message
      simp only [State.receive, State.setHandling_handling, Function.update_self,
        Option.some.injEq] at message
      subst message
      exact absurd ⟨holds.mine, holds.key⟩ mine

omit [DecidableEq Worker] in
theorem dispatched_cons (state : State Worker) (config : ConsumerConfig) (msg : Message)
    (consumer other : Consumer) (messageId : String) :
    ({ state with dispatches := (other, messageId) :: state.dispatches } :
        State Worker).dispatched config msg consumer =
      state.dispatched config msg consumer +
        if other = consumer ∧ some messageId = keyOf config msg then 1 else 0 := by
  simp only [State.dispatched, List.countP_cons, Bool.and_eq_true, beq_iff_eq]

theorem Placed.claims (placed : Placed deployment msg before consumer) {own : Message}
    {message : ParsedMessage} {row : ProcessedMessage Worker}
    (received : before.Handles worker own .received)
    (parsed : parseMessage deployment.config own = .ok message) :
    Placed deployment msg
      (before.grant worker (deployment.consumers worker) message.messageId row) consumer := by
  have key := keyOf_of_parsed parsed
  have counted : (before.grant worker (deployment.consumers worker) message.messageId
      row).dispatched deployment.config msg consumer = before.dispatched deployment.config msg
        consumer + if deployment.consumers worker = consumer ∧
          some message.messageId = keyOf deployment.config msg then 1 else 0 :=
    dispatched_cons before deployment.config msg consumer _ _
  have own_handling : (before.grant worker (deployment.consumers worker) message.messageId
      row).handling worker = { before.handling worker with
        progress := .dispatching message.messageId } := Function.update_self _ _ _
  have others : ∀ other, other ≠ worker → (before.grant worker (deployment.consumers worker)
      message.messageId row).handling other = before.handling other :=
    fun other different => Function.update_of_ne different _ _
  by_cases mine : deployment.consumers worker = consumer ∧
      some message.messageId = keyOf deployment.config msg
  · rw [if_pos mine] at counted
    have holds : before.Holds deployment msg consumer worker own :=
      ⟨mine.1, received.1, key.trans mine.2, by rw [received.2]; rfl⟩
    rcases placed.of_holds holds with ⟨sole, absent, alone⟩
    refine .held worker own ⟨sole.published, sole.alike, sole.routed, ?_⟩ absent ?_ ?_
    · have spent := sole.spent
      rw [received.2, if_pos rfl] at spent
      rw [counted, own_handling, if_neg (by simp)]
      omega
    · exact ⟨mine.1, by rw [own_handling]; exact received.1, holds.key, by rw [own_handling]; rfl⟩
    · intro other another holding
      by_contra different
      exact different (alone other another (holding.of_handling (others other different)))
  · rw [if_neg mine] at counted
    refine placed.rests ⟨rfl, counted, .rfl⟩ others fun copy holds => ?_
    have copied := holds.message
    rw [own_handling, received.1] at copied
    cases copied
    exact absurd ⟨holds.mine, key.symm.trans holds.key⟩ mine

theorem Consumer.either {first second : Consumer} (different : first ≠ second)
    (consumer : Consumer) : consumer = first ∨ consumer = second := by
  cases first <;> cases second <;> cases consumer <;> simp at different ⊢

omit [DecidableEq Worker] in
theorem State.Handles.holds {own : Message} {progress : Progress}
    (handles : before.Handles worker own progress) (pending : progress.pending = true)
    (same : keyOf deployment.config own = keyOf deployment.config msg) :
    before.Holds deployment msg (deployment.consumers worker) worker own :=
  ⟨rfl, handles.1, same, handles.2 ▸ pending⟩

omit [DecidableEq Worker] in
/-- A retry is routed to the consumer that publishes it only. -/
theorem Placed.home
    (confined : ¬(Retryable deployment.config msg ∧
      ∀ consumer, deployment.config.topology.routes msg consumer = true))
    (placed : ∀ consumer, Placed deployment msg before consumer)
    {own : Message} {message : ParsedMessage} (failed : before.Handles worker own .failed)
    (parsed : parseMessage deployment.config own = .ok message)
    (addressed : own.exchange ≠ "" ∧ own.routingKey ≠ "")
    (remain : getConsumeMessageAttempts own + 1 ≤ deployment.config.maxRetries)
    (same : keyOf deployment.config own = keyOf deployment.config msg)
    (routed : deployment.config.topology.routes own consumer = true) :
    deployment.consumers worker = consumer := by
  have sole := ((placed (deployment.consumers worker)).of_holds (failed.holds rfl same)).1
  have key := keyOf_of_parsed parsed
  by_contra elsewhere
  refine confined ⟨sole.alike.retryable ⟨by rw [key]; rfl, addressed, remain⟩, fun queue => ?_⟩
  rcases Consumer.either elsewhere queue with rfl | rfl
  · exact sole.routed
  · rwa [← sole.alike.routes]

theorem Placed.publishes
    (confined : ¬(Retryable deployment.config msg ∧
      ∀ consumer, deployment.config.topology.routes msg consumer = true))
    (placed : ∀ consumer, Placed deployment msg before consumer) {own : Message}
    {message : ParsedMessage} {further : Progress} (failed : before.Handles worker own .failed)
    (parsed : parseMessage deployment.config own = .ok message)
    (addressed : own.exchange ≠ "" ∧ own.routingKey ≠ "")
    (remain : getConsumeMessageAttempts own + 1 ≤ deployment.config.maxRetries)
    (given : further.pending = false) :
    Placed deployment msg
      ((before.enqueue deployment.config.topology
        (own.retry (getConsumeMessageAttempts own + 1))).advance worker further) consumer := by
  have copies : ((before.enqueue deployment.config.topology
      (own.retry (getConsumeMessageAttempts own + 1))).advance worker further).copies
        deployment.config msg consumer = _ :=
    copies_enqueue before deployment.config msg (own.retry (getConsumeMessageAttempts own + 1))
      consumer
  have others : ∀ other, other ≠ worker → ((before.enqueue deployment.config.topology
      (own.retry (getConsumeMessageAttempts own + 1))).advance worker further).handling other =
        before.handling other := fun other different => Function.update_of_ne different _ _
  have given_up (copy : Message) : ¬((before.enqueue deployment.config.topology
      (own.retry (getConsumeMessageAttempts own + 1))).advance worker further).Holds deployment msg
        consumer worker copy := by
    intro holds
    have pending := holds.pending
    rw [State.advance_handling, given] at pending
    cases pending
  by_cases added : deployment.config.topology.routes own consumer = true ∧
      keyOf deployment.config own = keyOf deployment.config msg
  · rw [routes_retry, keyOf_retry, if_pos added] at copies
    have here := Placed.home confined placed failed parsed addressed remain added.2 added.1
    subst here
    rcases (placed _).of_holds (failed.holds rfl added.2) with ⟨sole, absent, alone⟩
    rw [absent] at copies
    refine .queued _ ⟨sole.published, sole.alike.retry remain, sole.routed, ?_⟩ copies ?_
    · have spent := sole.spent
      rw [failed.2, if_neg (by simp)] at spent
      rw [getConsumeMessageAttempts_retry]
      exact spent
    · intro other another holding
      by_cases same : other = worker
      · subst other
        exact given_up another holding
      · exact same (alone other another (holding.of_handling (others other same)))
  · rw [routes_retry, keyOf_retry, if_neg added, List.append_nil] at copies
    exact (placed consumer).rests ⟨copies, rfl, .rfl⟩ others
      fun copy holds => absurd holds (given_up copy)

/-! ### Every step -/

theorem Placed.acts {command : Command} {choice : Choice}
    (confined : ¬(Retryable deployment.config msg ∧
      ∀ consumer, deployment.config.topology.routes msg consumer = true))
    (placed : ∀ consumer, Placed deployment msg before consumer)
    (change : Change deployment.config (deployment.consumers worker) worker before command choice
      after) : Placed deployment msg after consumer := by
  have others : ∀ other, other ≠ worker → after.handling other = before.handling other :=
    fun _ different => change.others different
  have rests (queue : after.queue = before.queue) (dispatches : after.dispatches = before.dispatches)
      (own : ∀ copy, after.Holds deployment msg consumer worker copy →
        before.Holds deployment msg consumer worker copy ∧
          ((after.handling worker).progress = .received →
            (before.handling worker).progress = .received)) :
      Placed deployment msg after consumer := by
    refine (placed consumer).rests ⟨copies_of_queue (by rw [queue]), ?_, ?_⟩ others own
    · rw [State.dispatched, dispatches]
      rfl
    · rw [State.Published, change.published]
      rfl
  have advances (taken : State Worker) {own : Message} {progress further : Progress}
      (handles : before.Handles worker own progress) (same : taken.handling = before.handling)
      (given : further ≠ .received) (pending : further.pending = true → progress.pending = true)
      (copy : Message)
      (holds : (taken.advance worker further).Holds deployment msg consumer worker copy) :
      before.Holds deployment msg consumer worker copy ∧
        (((taken.advance worker further).handling worker).progress = .received →
          (before.handling worker).progress = .received) := by
    have message := holds.message
    have working := holds.pending
    rw [State.advance_handling, same] at message working
    refine ⟨⟨holds.mine, message, holds.key, ?_⟩, fun received => ?_⟩
    · rw [handles.2]
      exact pending working
    · rw [State.advance_handling] at received
      exact absurd received given
  have claims {progress : Progress} {messageId : String}
      (claimed : progress.claimed? = some messageId) : progress.pending = true := by
    cases progress <;> simp [Progress.claimed?, Progress.pending] at claimed ⊢
  cases change with
  | receives idle queued => exact (placed consumer).receives queued
  | claims received parsed succeeds taken => exact (placed consumer).claims received parsed
  | refuses received parsed succeeds refused =>
      exact rests rfl rfl (advances before received rfl (by simp) (by simp [Progress.pending]))
  | claimFails received parsed write =>
      exact rests write.queue write.dispatches
        (advances _ received write.handling (by simp) (by simp [Progress.pending]))
  | completes handles claimed parsed found =>
      exact rests rfl rfl (advances (before.setRow _ _ _) handles rfl (by simp)
        (by simp [Progress.pending]))
  | completionFails handles claimed parsed write =>
      exact rests write.queue write.dispatches fun copy holds =>
        ⟨holds.of_handling (by rw [write.handling]), by rw [write.handling]; exact id⟩
  | marks handles claimed parsed write =>
      exact rests write.queue write.dispatches
        (advances _ handles write.handling (by simp) fun _ => claims claimed)
  | outputs handles outcome =>
      rcases outcome with rfl | ⟨output, rfl⟩
      · exact rests rfl rfl (advances _ handles rfl (by simp) (by simp [Progress.pending]))
      · exact rests rfl rfl (advances (before.record _ _ _) handles rfl (by simp)
          (by simp [Progress.pending]))
  | observes => exact placed consumer
  | publishes failed unacked parsed addressed remain =>
      refine Placed.publishes confined placed failed parsed addressed remain ?_
      cases choice.writable <;> rfl
  | acks settled =>
      refine rests rfl rfl fun copy holds => ?_
      have pending := holds.pending
      simp [State.ack, settled, Progress.pending] at pending
  | rejects handles gives =>
      refine rests State.deadLetter_queue ?_ fun copy holds => ?_
      · unfold State.deadLetter
        split <;> rfl
      · have pending := holds.pending
        simp [State.deadLetter, handles.1, Progress.pending] at pending

omit [DecidableEq Worker] in
theorem Placed.published (placed : Placed deployment msg before consumer) {other : Message}
    (permitted : keyOf deployment.config other = keyOf deployment.config msg →
      other = msg ∧ ¬before.Published deployment.config msg) :
    Placed deployment msg
      { before.enqueue deployment.config.topology other with
        published := other :: before.published } consumer := by
  have copies := copies_enqueue before deployment.config msg other consumer
  by_cases same : keyOf deployment.config other = keyOf deployment.config msg
  · rcases permitted same with ⟨rfl, unpublished⟩
    have published : ({ before.enqueue deployment.config.topology other with
        published := other :: before.published } : State Worker).Published deployment.config other :=
      ⟨other, List.mem_cons_self, rfl⟩
    cases placed with
    | queued copy sole queued unheld => exact absurd sole.published unpublished
    | held holder copy sole absent holds alone => exact absurd sole.published unpublished
    | gone earlier absent unheld spent => exact absurd earlier unpublished
    | unpublished _ absent unheld undispatched =>
        have nobody (worker : Worker) (copy : Message) :
            ¬({ before.enqueue deployment.config.topology other with
              published := other :: before.published } : State Worker).Holds deployment other
                consumer worker copy := fun holds => unheld worker copy (holds.of_handling rfl)
        rw [absent] at copies
        by_cases routed : deployment.config.topology.routes other consumer = true
        · rw [if_pos ⟨routed, rfl⟩] at copies
          exact .queued other ⟨published, .refl _ other, routed,
            by rw [← undispatched]; exact (Nat.add_comm _ _).le⟩ copies nobody
        · rw [if_neg fun added => routed added.1] at copies
          exact .gone published copies nobody (undispatched.trans_le (Nat.zero_le _))
  · rw [if_neg fun added => same added.2, List.append_nil] at copies
    refine placed.still ⟨copies, rfl, ?_⟩ fun worker copy holds => ⟨holds.of_handling rfl, id⟩
    constructor
    · rintro ⟨earlier, member, equal⟩
      rcases List.mem_cons.mp member with rfl | member
      · exact absurd equal same
      · exact ⟨earlier, member, equal⟩
    · rintro ⟨earlier, member, equal⟩
      exact ⟨earlier, List.mem_cons_of_mem _ member, equal⟩

theorem Placed.requeues (placed : Placed deployment msg before consumer) {queue : Consumer}
    (kept : ∀ copy ∈ (before.handling worker).message, (before.handling worker).unacked = true →
      keyOf deployment.config copy ≠ keyOf deployment.config msg) :
    Placed deployment msg (before.requeue worker queue) consumer := by
  rcases before.requeue_cases worker queue with same | ⟨own, holds, unacked, result⟩
  · rw [same]
    exact placed
  · rw [result]
    have others : ∀ other, other ≠ worker → (State.setHandling
        { before with queue := Function.update before.queue queue (own :: before.queue queue) }
        worker { before.handling worker with unacked := false }).handling other =
          before.handling other := fun other different => Function.update_of_ne different _ _
    refine placed.rests ⟨?_, rfl, .rfl⟩ others fun copy held => ?_
    · by_cases here : consumer = queue
      · subst here
        simp [State.copies, beq_eq_false_iff_ne.mpr (kept own holds unacked)]
      · simp [State.copies, here]
    · refine absurd held.key ?_
      have message := held.message
      simp only [State.setHandling_handling, Function.update_self] at message
      exact kept copy message unacked

theorem Placed.environment {event : Occurrence Worker}
    (placed : Placed deployment msg before consumer)
    (permitted : (publishedOnce deployment.config msg).happens event before)
    (happened : State.environment deployment.consumers deployment.config.topology event before =
      some after) : Placed deployment msg after consumer := by
  cases event with
  | publish other =>
      cases happened
      exact placed.published permitted
  | disconnect worker =>
      cases happened
      exact placed.requeues permitted
  | crash worker =>
      cases happened
      have requeued : Placed deployment msg (before.requeue worker (deployment.consumers worker))
          consumer := placed.requeues permitted
      have others : ∀ other, other ≠ worker →
          (before.crash worker (deployment.consumers worker)).handling other =
            (before.requeue worker (deployment.consumers worker)).handling other :=
        fun other different => Function.update_of_ne different _ _
      refine requeued.rests ⟨rfl, rfl, .rfl⟩ others fun copy held => ?_
      have message := held.message
      have pending := held.pending
      simp only [State.crash, State.setHandling_handling, Function.update_self] at message pending
      refine ⟨⟨held.mine, message, held.key, pending⟩, fun received => ?_⟩
      simpa [State.crash] using received
  | tick now =>
      simp only [State.environment, Option.ite_none_right_eq_some, Option.some.injEq] at happened
      rcases happened with ⟨_, rfl⟩
      exact placed.still ⟨rfl, rfl, .rfl⟩ fun worker copy holds =>
        ⟨holds.of_handling rfl, id⟩

/-! ## Every run -/

section Bounds

variable (confined : ¬(Retryable deployment.config msg ∧
  ∀ consumer, deployment.config.topology.routes msg consumer = true))

def placedInvariant : Invariant deployment (publishedOnce deployment.config msg) where
  holds state := ∀ consumer, Placed deployment msg state consumer
  acts placed acted consumer := by
    rcases acted with ⟨command, choice, _, _, change⟩
    exact Placed.acts confined placed change
  environment placed permitted happened consumer := (placed consumer).environment permitted happened

omit [DecidableEq Worker] in
theorem placed_initial (deployment : Deployment Worker) (msg : Message) (now : ℕ)
    (consumer : Consumer) : Placed deployment msg (deployment.initial now).shared consumer := by
  refine .unpublished ?_ rfl (fun worker copy holds => ?_) rfl
  · rintro ⟨earlier, member, _⟩
    cases member
  · have pending := holds.pending
    cases pending

end Bounds

end Runs

end BankingBackend.Messaging
