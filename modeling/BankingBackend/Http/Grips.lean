import BankingBackend.Http.Grip

/-! # What the store has of the requests

What is stored under a key or a lock belongs to the request that holds it, as far as
its commands retain what they take.
-/

namespace BankingBackend.Http

open Foundation Postgres Redis Common Fraud Transactions Transactions.Controller

section Stores

variable {Thread : Type}

/-- The store holds nothing of a request that is `focused` that the request does not hold. -/
structure Grips (focused : Thread → Prop) (thread : Thread) (grip : Grip) (store : KeyStore Thread) : Prop where
  drawn : ∀ token, grip.token = some token → store.drawn token = some thread
  known : ∀ userId token, store.userLock userId = some token → store.drawn token ≠ none
  key : focused thread → ∀ key stored, store.idempotency key = some stored →
    stored.state = .inFlight → stored.author = thread → grip.key = some key
  lock : focused thread → ∀ userId token, store.userLock userId = some token →
    store.drawn token = some thread → grip.lock = some ⟨userId, token⟩

variable {focused : Thread → Prop} {thread other : Thread} {grip : Grip} {store : KeyStore Thread}
  {key : IdempotencyKey} {userId token : Uuid}

theorem grips_empty : Grips focused thread .empty .empty where
  drawn := by rintro token ⟨⟩
  known := by rintro userId token ⟨⟩
  key := by rintro _ key stored ⟨⟩
  lock := by rintro _ userId token ⟨⟩

theorem Grips.setKey (grips : Grips focused thread grip store) {value : Option (Stored Thread)}
    (harmless : ∀ stored, value = some stored → focused thread → stored.state = .inFlight →
      stored.author ≠ thread) : Grips focused thread grip (store.setKey key value) where
  drawn := grips.drawn
  known := grips.known
  key known named stored present := by
    rw [KeyStore.idempotency_setKey] at present
    split at present
    · exact fun state author => absurd author (harmless stored present known state)
    · exact grips.key known named stored present
  lock := grips.lock

theorem Grips.setLock (grips : Grips focused thread grip store) {value : Option Uuid}
    (harmless : ∀ token, value = some token →
      ∃ other, store.drawn token = some other ∧ (focused thread → other ≠ thread)) :
    Grips focused thread grip (store.setLock userId value) where
  drawn := grips.drawn
  known named token present := by
    rw [KeyStore.userLock_setLock] at present
    split at present
    · rcases harmless token present with ⟨other, drawn, _⟩
      simp [KeyStore.setLock, drawn]
    · exact grips.known named token present
  key := grips.key
  lock known named token present drawn := by
    rw [KeyStore.userLock_setLock] at present
    split at present
    · rcases harmless token present with ⟨other, drawnOther, different⟩
      exact absurd (Option.some.inj (drawnOther.symm.trans drawn)) (different known)
    · exact grips.lock known named token present drawn

theorem Grips.unlock (grips : Grips focused thread grip store) :
    Grips focused thread grip (store.unlock userId token) := by
  unfold KeyStore.unlock
  split
  · exact grips.setLock (by rintro token ⟨⟩)
  · exact grips

theorem Grips.draws (grips : Grips focused thread grip store) (fresh : store.drawn token = none)
    (different : thread ≠ other) :
    Grips focused thread grip (store.draw other token) where
  drawn named held := by
    have distinct : named ≠ token := by
      rintro rfl
      exact Option.some_ne_none _ ((grips.drawn named held).symm.trans fresh)
    rw [KeyStore.drawn_draw, if_neg distinct]
    exact grips.drawn named held
  known named stored present := by
    rw [KeyStore.drawn_draw]
    split
    · exact Option.some_ne_none _
    · exact grips.known named stored present
  key := grips.key
  lock known named stored present drawn := by
    rw [KeyStore.drawn_draw] at drawn
    split at drawn
    · exact absurd (Option.some.inj drawn).symm different
    · exact grips.lock known named stored present drawn

theorem Grips.loses (grips : Grips focused thread grip store) (away : ¬focused thread) {later : Grip}
    (same : later.token = grip.token) : Grips focused thread later store where
  drawn token held := grips.drawn token (same ▸ held)
  known := grips.known
  key known := absurd known away
  lock known := absurd known away

/-! ### Its own commands -/

theorem Grips.takesKey (grips : Grips focused thread grip store) (free : grip.key = none) :
    Grips focused thread { grip with key := some key, carried := some key }
      (store.setKey key (some ⟨.inFlight, thread⟩)) where
  drawn := grips.drawn
  known := grips.known
  key known named stored present state author := by
    rw [KeyStore.idempotency_setKey] at present
    split at present
    · rename_i same
      rw [same]
    · have held := grips.key known named stored present state author
      rw [free] at held
      cases held
  lock := grips.lock

theorem Grips.givesKey (grips : Grips focused thread grip store)
    (own : grip.key = none ∨ grip.key = some key) {value : Option (Stored Thread)}
    (harmless : ∀ stored, value = some stored → stored.state ≠ .inFlight) :
    Grips focused thread { grip with key := none, carried := none } (store.setKey key value) where
  drawn := grips.drawn
  known := grips.known
  key known named stored present state author := by
    rw [KeyStore.idempotency_setKey] at present
    split at present
    · exact absurd state (harmless stored present)
    · rename_i different
      have held := grips.key known named stored present state author
      rcases own with none | some
      · exact none.symm.trans held
      · exact absurd (Option.some.inj (held.symm.trans some)) different
  lock := grips.lock

theorem Grips.drawsOwn (grips : Grips focused thread grip store)
    (fresh : store.drawn token = none) :
    Grips focused thread { grip with token := some token } (store.draw thread token) where
  drawn named held := by
    cases held
    rw [KeyStore.drawn_draw, if_pos rfl]
  known named stored present := by
    rw [KeyStore.drawn_draw]
    split
    · exact Option.some_ne_none _
    · exact grips.known named stored present
  key := grips.key
  lock known named stored present drawn := by
    have distinct : stored ≠ token := by
      rintro rfl
      exact grips.known named stored present fresh
    rw [KeyStore.drawn_draw, if_neg distinct] at drawn
    exact grips.lock known named stored present drawn

theorem Grips.takesLock (grips : Grips focused thread grip store)
    (drew : grip.token = some token) (free : grip.lock = none) :
    Grips focused thread { grip with lock := some ⟨userId, token⟩ }
      (store.setLock userId (some token)) where
  drawn := grips.drawn
  known named stored present := by
    rw [KeyStore.userLock_setLock] at present
    split at present
    · cases present
      simp [KeyStore.setLock, grips.drawn token drew]
    · exact grips.known named stored present
  key := grips.key
  lock known named stored present drawn := by
    rw [KeyStore.userLock_setLock] at present
    split at present
    · rename_i same
      cases present
      rw [same]
    · have held := grips.lock known named stored present drawn
      rw [free] at held
      cases held

theorem Grips.givesLock (grips : Grips focused thread grip store)
    (held : grip.lock = some ⟨userId, token⟩) :
    Grips focused thread { grip with lock := none } (store.unlock userId token) := by
  have released : Grips focused thread grip (store.unlock userId token) := grips.unlock
  refine ⟨released.drawn, released.known, released.key, ?_⟩
  intro known named stored present drawn
  have own := (released.lock known named stored present drawn).symm.trans held
  cases own
  rw [KeyStore.unlock] at present
  split at present
  · simp [KeyStore.setLock] at present
  · rename_i different
    exact absurd present different

end Stores

/-! ## Every run -/

section Runs

variable {Thread : Type} [DecidableEq Thread] [Fintype Thread] {incoming : Thread → Incoming}
  {focused : Thread → Prop} {thread : Thread}

/-- What the commands of the focused requests retain; the others use Redis as they like. -/
def Retained (incoming : Thread → Incoming) (focused : Thread → Prop) (thread : Thread)
    (op : gatewayInterface.Op) (choice : Choice) (host : Host Thread) : Prop :=
  ∀ command, op = .inr command → focused thread →
    Retains (incoming thread) host.keys choice command

omit [DecidableEq Thread] [Fintype Thread] in
theorem Grips.acts {grip : Grip} {store after : KeyStore Thread} {command : KeyCommand}
    {choice : Choice} {answer : command.Answer} (grips : Grips focused thread grip store)
    (permits : grip.Permits (.inr command))
    (retains : focused thread → Retains (incoming thread) store choice command)
    (performed : performKey thread command choice store = some (answer, after)) :
    Answerable (incoming thread) (focused thread) (.inr command) answer ∧
      Grips focused thread (grip.after (.inr command) answer) after := by
  cases command with
  | isReady =>
      cases performed
      exact ⟨trivial, grips⟩
  | get key =>
      refine ⟨trivial, ?_⟩
      have same : after = store := by
        unfold performKey evaluated at performed
        cases outcome : choice.redis <;> simp only [outcome] at performed <;> cases performed <;> rfl
      rw [same]
      rcases answer with _ | _ | _ | _
      · exact grips
      · exact grips
      · exact grips
      · exact ⟨grips.drawn, grips.known, grips.key, grips.lock⟩
  | setNX key =>
      unfold performKey evaluated KeyStore.setNX at performed
      cases present : store.idempotency key with
      | some stored =>
          cases outcome : choice.redis <;> simp only [present, outcome] at performed <;>
            cases performed <;> exact ⟨trivial, grips⟩
      | none =>
          cases outcome : choice.redis <;> simp only [present, outcome] at performed <;>
            cases performed
          · exact ⟨fun known rejected => (retains known present).2 outcome rejected,
              grips.takesKey permits⟩
          · refine ⟨trivial, grips.setKey ?_⟩
            rintro _ ⟨⟩ known
            exact absurd outcome (retains known present).1
          · exact ⟨trivial, grips⟩
  | del key =>
      unfold performKey evaluated at performed
      cases outcome : choice.redis <;> simp only [outcome] at performed <;> cases performed
      · exact ⟨trivial, grips.givesKey permits.2 (by rintro stored ⟨⟩)⟩
      · exact ⟨trivial, grips.givesKey permits.2 (by rintro stored ⟨⟩)⟩
      · exact ⟨trivial, grips.loses (fun known => retains known outcome) rfl⟩
  | setDone key =>
      unfold performKey evaluated at performed
      cases outcome : choice.redis <;> simp only [outcome] at performed <;> cases performed
      · refine ⟨trivial, grips.givesKey permits.2 ?_⟩
        rintro _ ⟨⟩ ⟨⟩
      · refine ⟨trivial, grips.setKey ?_⟩
        rintro _ ⟨⟩ _ ⟨⟩
      · exact ⟨trivial, grips⟩
  | randomUUID =>
      unfold performKey at performed
      cases fresh : store.drawn choice.newId with
      | some _ =>
          simp only [fresh] at performed
          cases performed
      | none =>
          simp only [fresh] at performed
          cases performed
          exact ⟨trivial, grips.drawsOwn fresh⟩
  | lockNX userId token =>
      rcases permits with ⟨drew, free⟩
      unfold performKey evaluated KeyStore.lockNX at performed
      cases present : store.userLock userId with
      | some held =>
          cases outcome : choice.redis <;> simp only [present, outcome] at performed <;>
            cases performed
          · exact ⟨trivial, grips⟩
          · exact ⟨fun known => by simpa [outcome] using (retains known).1, grips⟩
          · exact ⟨fun known => by simpa [outcome] using (retains known).1, grips⟩
      | none =>
          cases outcome : choice.redis <;> simp only [present, outcome] at performed <;>
            cases performed
          · refine ⟨fun known rejected => ?_, grips.takesLock drew free⟩
            simpa [present] using (retains known).2 rejected
          · have away : ¬focused thread := fun known => by
              simpa [outcome] using (retains known).1
            refine ⟨away, grips.setLock ?_⟩
            rintro _ ⟨⟩
            exact ⟨thread, grips.drawn token drew, fun known => absurd known away⟩
          · exact ⟨fun known => by simpa [outcome] using (retains known).1, grips⟩
  | unlock userId token =>
      unfold performKey evaluated at performed
      cases outcome : choice.redis <;> simp only [outcome] at performed <;> cases performed
      · exact ⟨trivial, grips.givesLock permits.2⟩
      · exact ⟨trivial, grips.givesLock permits.2⟩
      · exact ⟨trivial, grips.loses (fun known => retains known outcome) rfl⟩

omit [DecidableEq Thread] [Fintype Thread] in
theorem Grips.others {other : Thread} {grip otherGrip : Grip} {store after : KeyStore Thread}
    {command : KeyCommand} {choice : Choice} {answer : command.Answer}
    (grips : Grips focused thread grip store) (otherGrips : Grips focused other otherGrip store)
    (different : thread ≠ other) (permits : otherGrip.Permits (.inr command))
    (performed : performKey other command choice store = some (answer, after)) :
    Grips focused thread grip after := by
  cases command with
  | isReady =>
      cases performed
      exact grips
  | get key =>
      unfold performKey evaluated at performed
      cases outcome : choice.redis <;> simp only [outcome] at performed <;> cases performed <;>
        exact grips
  | setNX key =>
      have set : Grips focused thread grip (store.setKey key (some ⟨.inFlight, other⟩)) := by
        refine grips.setKey ?_
        rintro _ ⟨⟩ _ _
        exact different.symm
      unfold performKey evaluated KeyStore.setNX at performed
      cases present : store.idempotency key <;> cases outcome : choice.redis <;>
        simp only [present, outcome] at performed <;> cases performed <;> assumption
  | del key =>
      have removed : Grips focused thread grip (store.setKey key none) :=
        grips.setKey (by rintro stored ⟨⟩)
      unfold performKey evaluated at performed
      cases outcome : choice.redis <;> simp only [outcome] at performed <;> cases performed <;>
        assumption
  | setDone key =>
      have set : Grips focused thread grip (store.setKey key (some ⟨.done, other⟩)) := by
        refine grips.setKey ?_
        rintro _ ⟨⟩ _ ⟨⟩
      unfold performKey evaluated at performed
      cases outcome : choice.redis <;> simp only [outcome] at performed <;> cases performed <;>
        assumption
  | randomUUID =>
      unfold performKey at performed
      cases fresh : store.drawn choice.newId <;> simp only [fresh] at performed <;>
        cases performed
      exact grips.draws fresh different
  | lockNX userId token =>
      have set : Grips focused thread grip (store.setLock userId (some token)) := by
        refine grips.setLock ?_
        rintro _ ⟨⟩
        exact ⟨other, otherGrips.drawn token permits.1, fun _ => different.symm⟩
      unfold performKey evaluated KeyStore.lockNX at performed
      cases present : store.userLock userId <;> cases outcome : choice.redis <;>
        simp only [present, outcome] at performed <;> cases performed <;> assumption
  | unlock userId token =>
      have unlocked : Grips focused thread grip (store.unlock userId token) := grips.unlock
      unfold performKey evaluated at performed
      cases outcome : choice.redis <;> simp only [outcome] at performed <;> cases performed <;>
        assumption

theorem grips_shares :
    Monitor.Shares (fun thread => gripMonitor (incoming thread) (focused thread)) (gateway Thread)
      (fun host => ∀ row ∈ host.world.server.database.transactions, row.status ≠ .pending)
      (Retained incoming focused) (fun _ => True)
      (fun thread grip host => Grips focused thread grip host.keys) where
  acts {thread grip op choice before answer after} decided grips permits retained performed := by
    cases op with
    | inl command =>
        rcases Option.map_eq_some_iff.mp performed with ⟨⟨reply, world⟩, done, equal⟩
        cases equal
        exact ⟨grip, ⟨rfl, fun _ => perform_findsDecided decided done⟩, grips⟩
    | inr command =>
        rcases Option.map_eq_some_iff.mp performed with ⟨⟨reply, keys⟩, done, equal⟩
        cases equal
        have acts := grips.acts permits (retained command rfl) done
        exact ⟨_, ⟨rfl, acts.1⟩, acts.2⟩
  others {thread other grip otherGrip op choice before answer after} different grips otherGrips
      permits _ performed := by
    cases op with
    | inl command =>
        rcases Option.map_eq_some_iff.mp performed with ⟨⟨reply, world⟩, _, equal⟩
        cases equal
        exact grips
    | inr command =>
        rcases Option.map_eq_some_iff.mp performed with ⟨⟨reply, keys⟩, done, equal⟩
        cases equal
        exact grips.others otherGrips different permits done
  environment {thread grip event before after} grips _ happened := by
    cases event with
    | world occurrence =>
        rcases Option.map_eq_some_iff.mp happened with ⟨world, _, rfl⟩
        exact grips
    | expire expiry =>
        cases happened
        cases expiry with
        | key key => exact grips.setKey (by rintro stored ⟨⟩)
        | lock userId => exact grips.setLock (by rintro token ⟨⟩)

/-- In every run whose steps retain what the focused requests take. -/
theorem Attained.grips {config : FraudConfig} {current : SiteConfiguration Thread}
    {allowed : SiteConfiguration Thread → SiteLabel Thread → Prop}
    (attained : Attained config incoming allowed current)
    (retains : ∀ between thread choice op next, allowed between (.perform thread choice) →
      between.program thread = .call op next →
      Retained incoming focused thread op choice between.shared) :
    Monitor.Tracks (fun thread => gripMonitor (incoming thread) (focused thread))
      (fun thread grip host => Grips focused thread grip host.keys)
      (fun thread (_ : CallResult) final => focused thread → final.Released) current := by
  refine attained.invariant _ (fun _ _ thread => ⟨.empty, grips_empty, grip_program config _ _⟩) ?_
  intro between label next attained tracks allows taken
  refine tracks.step grips_shares (fun row member => (attained.decided member).notPending) ?_
    (fun _ _ => trivial) taken
  rintro thread choice op next rfl program
  exact retains between thread choice op next allows program

end Runs

end BankingBackend.Http
