import BankingBackend.Http.Grips
import BankingBackend.Properties.KeyReturn

/-! # Keys that others take

A request marks the key it carries done or deletes it, whoever has set it meanwhile. A
key in flight stays with its request as long as no key is removed that another request
still has to give back.
-/

namespace BankingBackend.Http

open Foundation Postgres Redis Common Fraud Transactions Transactions.Controller

/-! ## Requests with a key to give back -/

/-- Whoever has the answer carries the key from then on. -/
def Takes (key : IdempotencyKey) : (op : gatewayInterface.Op) → gatewayInterface.Answer op → Prop
  | .inr (.setNX named), some true => named = key
  | .inr (.get named), some (some .done) => named = key
  | _, _ => False

/-- The program may come to mark the key done or to delete it before it takes it again. -/
inductive GivesBack {α : Type} (key : IdempotencyKey) : Program gatewayInterface α → Prop
  | marks (next) : GivesBack key (.call (.inr (.setDone key)) next)
  | deletes (next) : GivesBack key (.call (.inr (.del key)) next)
  | later {op : gatewayInterface.Op} {next : gatewayInterface.Answer op → Program gatewayInterface α}
      (answer : gatewayInterface.Answer op) (keeps : ¬Takes key op answer)
      (gives : GivesBack key (next answer)) : GivesBack key (.call op next)

section Programs

variable {incoming : Incoming} {key : IdempotencyKey} {grip : Grip} {α : Type}
  {program : Program gatewayInterface α} {post : α → Grip → Prop}

theorem carried_after {op : gatewayInterface.Op} {answer : gatewayInterface.Answer op}
    (keeps : ¬Takes key op answer) (carries : (grip.after op answer).carried = some key) :
    grip.carried = some key := by
  cases op with
  | inl command => exact carries
  | inr command =>
      cases command with
      | isReady | randomUUID => exact carries
      | setNX named =>
          rcases answer with _ | _ | _
          · exact carries
          · exact carries
          · exact absurd (Option.some.inj carries) keeps
      | get named =>
          rcases answer with _ | _ | _ | _
          · exact carries
          · exact carries
          · exact carries
          · exact absurd (Option.some.inj carries) keeps
      | del named => cases carries
      | setDone named =>
          cases answer with
          | none => exact carries
          | some _ => cases carries
      | lockNX userId token => rcases answer with _ | _ | _ <;> exact carries
      | unlock userId token => exact carries

theorem answerable_unfocused (op : gatewayInterface.Op) (answer : gatewayInterface.Answer op) :
    Answerable incoming False op answer := by
  cases op with
  | inl command => exact False.elim
  | inr command =>
      cases command with
      | setNX named =>
          rcases answer with _ | _ | _
          · trivial
          · trivial
          · exact False.elim
      | lockNX userId token =>
          rcases answer with _ | _ | _
          · exact id
          · trivial
          · exact False.elim
      | _ => trivial

theorem GivesBack.carried (gives : GivesBack key program)
    (follows : (gripMonitor incoming False).Follows post program grip) :
    grip.carried = some key := by
  induction gives generalizing grip with
  | marks next => exact follows.1.1
  | deletes next => exact follows.1.1
  | @later op next answer keeps gives induction =>
      have moves := follows.2 answer _ ⟨rfl, answerable_unfocused op answer⟩
      exact carried_after keeps (induction moves)

end Programs

/-! ## What a command does to a key -/

section Stores

variable {Thread : Type} {thread : Thread} {store after : KeyStore Thread} {command : KeyCommand}
  {choice : Choice} {answer : command.Answer}

inductive Rewrites (thread : Thread) (key : IdempotencyKey) (op : gatewayInterface.Op)
    (before : Option (Stored Thread)) : Option (Stored Thread) → Prop
  | same : Rewrites thread key op before before
  | marks (marking : op = .inr (.setDone key)) :
      Rewrites thread key op before (some ⟨.done, thread⟩)
  | deletes (deleting : op = .inr (.del key)) : Rewrites thread key op before none
  | takes (taking : op = .inr (.setNX key)) (absent : before = none) :
      Rewrites thread key op before (some ⟨.inFlight, thread⟩)

theorem rewrites_setKey (key named : IdempotencyKey) {stored : Option (Stored Thread)}
    (rewrites : named = key → Rewrites thread key (.inr command) (store.idempotency key) stored) :
    Rewrites thread key (.inr command) (store.idempotency key)
      ((store.setKey named stored).idempotency key) := by
  rw [KeyStore.idempotency_setKey]
  split
  · rename_i same
    exact rewrites same.symm
  · exact .same

theorem performKey_rewrites (key : IdempotencyKey)
    (performed : performKey thread command choice store = some (answer, after)) :
    Rewrites thread key (.inr command) (store.idempotency key) (after.idempotency key) := by
  unfold performKey evaluated at performed
  cases command with
  | isReady =>
      cases performed
      exact .same
  | get named =>
      cases outcome : choice.redis <;> simp only [outcome] at performed <;> cases performed <;>
        exact .same
  | lockNX userId token =>
      have same : (store.lockNX userId token).2.idempotency key = store.idempotency key := by
        unfold KeyStore.lockNX
        cases store.userLock userId <;> rfl
      cases outcome : choice.redis <;> simp only [outcome] at performed <;> cases performed
      · exact same ▸ .same
      · exact same ▸ .same
      · exact .same
  | unlock userId token =>
      have same : (store.unlock userId token).idempotency key = store.idempotency key := by
        unfold KeyStore.unlock
        split <;> rfl
      cases outcome : choice.redis <;> simp only [outcome] at performed <;> cases performed
      · exact same ▸ .same
      · exact same ▸ .same
      · exact .same
  | setNX named =>
      have takes : Rewrites thread key (.inr (.setNX named)) (store.idempotency key)
          ((store.setNX thread named).2.idempotency key) := by
        unfold KeyStore.setNX
        cases stored : store.idempotency named with
        | some _ => exact .same
        | none =>
            refine rewrites_setKey key named ?_
            rintro rfl
            exact .takes rfl stored
      cases outcome : choice.redis <;> simp only [outcome] at performed <;> cases performed
      · exact takes
      · exact takes
      · exact .same
  | del named =>
      have deletes : Rewrites thread key (.inr (.del named)) (store.idempotency key)
          ((store.setKey named none).idempotency key) := by
        refine rewrites_setKey key named ?_
        rintro rfl
        exact .deletes rfl
      cases outcome : choice.redis <;> simp only [outcome] at performed <;> cases performed
      · exact deletes
      · exact deletes
      · exact .same
  | setDone named =>
      have marks : Rewrites thread key (.inr (.setDone named)) (store.idempotency key)
          ((store.setKey named (some ⟨.done, thread⟩)).idempotency key) := by
        refine rewrites_setKey key named ?_
        rintro rfl
        exact .marks rfl
      cases outcome : choice.redis <;> simp only [outcome] at performed <;> cases performed
      · exact marks
      · exact marks
      · exact .same
  | randomUUID =>
      cases fresh : store.drawn choice.newId <;> simp only [fresh] at performed <;>
        cases performed
      exact .same

end Stores

/-! ## Every run -/

section Runs

variable {Thread : Type} [DecidableEq Thread] [Fintype Thread] {config : FraudConfig}
  {incoming : Thread → Incoming} {current following : SiteConfiguration Thread}
  {label : SiteLabel Thread} {key : IdempotencyKey}
  {allowed : SiteConfiguration Thread → SiteLabel Thread → Prop}

def Removes (current : SiteConfiguration Thread) (label : SiteLabel Thread)
    (key : IdempotencyKey) : Prop :=
  current.shared.keys.idempotency key ≠ none ∧ ∃ following,
    siteStep current label = some following ∧ following.shared.keys.idempotency key = none

/-- No key is taken away that another request still has to give back. -/
def Undisturbed (current : SiteConfiguration Thread) (label : SiteLabel Thread) : Prop :=
  ∀ key other, Removes current label key → (∀ choice, label ≠ .perform other choice) →
    ¬GivesBack key (current.program other)

/-- Whoever has a key to give back finds it done or has set it itself. -/
def Owned (current : SiteConfiguration Thread) : Prop :=
  ∀ thread key, GivesBack key (current.program thread) →
    ∃ stored, current.shared.keys.idempotency key = some stored ∧
      (stored.state = .inFlight → stored.author = thread)

theorem perform_rewrites {thread : Thread} {op : gatewayInterface.Op} {choice : Choice}
    {before after : Host Thread} {answer : gatewayInterface.Answer op} (key : IdempotencyKey)
    (performed : (gateway Thread).perform thread op choice before = some (answer, after)) :
    Rewrites thread key op (before.keys.idempotency key) (after.keys.idempotency key) := by
  cases op with
  | inl command =>
      rcases Option.map_eq_some_iff.mp performed with ⟨⟨reply, world⟩, _, equal⟩
      cases equal
      exact .same
  | inr command =>
      rcases Option.map_eq_some_iff.mp performed with ⟨⟨reply, keys⟩, done, equal⟩
      cases equal
      exact performKey_rewrites key done

theorem environment_keys {event : HostEvent} {before after : Host Thread} (key : IdempotencyKey)
    (happened : (gateway Thread).environment event before = some after) :
    after.keys.idempotency key = before.keys.idempotency key ∨
      event = .expire (.key key) ∧ after.keys.idempotency key = none := by
  cases event with
  | world occurrence =>
      rcases Option.map_eq_some_iff.mp happened with ⟨world, _, rfl⟩
      exact .inl rfl
  | expire expiry =>
      cases happened
      cases expiry with
      | lock userId => exact .inl rfl
      | key named =>
          by_cases same : key = named
          · subst same
            refine .inr ⟨rfl, ?_⟩
            rw [KeyStore.expire, KeyStore.idempotency_setKey, if_pos rfl]
          · refine .inl ?_
            rw [KeyStore.expire, KeyStore.idempotency_setKey, if_neg same]

/-- A key that is taken has been set by the request or is done. -/
theorem perform_takes {thread : Thread} {op : gatewayInterface.Op} {choice : Choice}
    {before after : Host Thread} {answer : gatewayInterface.Answer op} (takes : Takes key op answer)
    (performed : (gateway Thread).perform thread op choice before = some (answer, after)) :
    ∃ stored, after.keys.idempotency key = some stored ∧
      (stored.state = .inFlight → stored.author = thread) := by
  cases op with
  | inl command => exact takes.elim
  | inr command =>
      rcases Option.map_eq_some_iff.mp performed with ⟨⟨reply, keys⟩, done, equal⟩
      cases equal
      unfold performKey evaluated at done
      cases command with
      | setNX named =>
          rcases answer with _ | _ | _
          · exact takes.elim
          · exact takes.elim
          · have same : named = key := takes
            subst same
            unfold KeyStore.setNX at done
            cases stored : before.keys.idempotency named <;> cases outcome : choice.redis <;>
              simp only [stored, outcome] at done <;> cases done
            exact ⟨⟨.inFlight, thread⟩, by rw [KeyStore.idempotency_setKey, if_pos rfl], fun _ => rfl⟩
      | get named =>
          rcases answer with _ | _ | _ | _
          · exact takes.elim
          · exact takes.elim
          · exact takes.elim
          · have same : named = key := takes
            subst same
            cases stored : before.keys.idempotency named with
            | none =>
                cases outcome : choice.redis <;> simp only [stored, outcome] at done <;> cases done
            | some held =>
                rcases held with ⟨state, author⟩
                cases outcome : choice.redis <;> simp only [stored, outcome] at done <;> cases done
                exact ⟨⟨.done, author⟩, stored, by rintro ⟨⟩⟩
      | lockNX userId token => rcases answer with _ | _ | _ <;> exact takes.elim
      | _ => exact takes.elim

theorem Attained.deletesLast {thread : Thread} {named : IdempotencyKey} {answer : Option Unit}
    {next : Option Unit → Program gatewayInterface CallResult}
    (attained : Attained config incoming allowed current)
    (program : current.program thread = .call (.inr (.del named)) next) :
    ¬GivesBack key (next answer) := by
  intro gives
  have unfocused : ∀ (between : SiteConfiguration Thread) thread choice op next,
      allowed between (.perform thread choice) → between.program thread = .call op next →
      Retained incoming (fun _ => False) thread op choice between.shared :=
    fun _ _ _ _ _ _ _ _ _ known => known.elim
  rcases attained.grips unfocused thread with ⟨grip, _, follows⟩
  rw [program] at follows
  cases gives.carried (follows.2 answer _ ⟨rfl, trivial⟩)

theorem Owned.step (attained : Attained config incoming allowed current)
    (owned : Owned current) (undisturbed : Undisturbed current label)
    (taken : siteStep current label = some following) : Owned following := by
  intro thread key gives
  by_cases acts : ∃ choice, label = .perform thread choice
  · rcases acts with ⟨choice, rfl⟩
    rcases Machine.step_perform taken with ⟨op, next, answer, shared, program, performed, rfl⟩
    simp only [Function.update_self] at gives
    by_cases takes : Takes key op answer
    · exact perform_takes takes performed
    · have given : GivesBack key (current.program thread) := program ▸ .later answer takes gives
      rcases owned thread key given with ⟨stored, present, own⟩
      have rewrites := perform_rewrites key performed
      generalize after : shared.keys.idempotency key = value at rewrites
      cases rewrites with
      | same => exact ⟨stored, present, own⟩
      | marks => exact ⟨_, rfl, by rintro ⟨⟩⟩
      | deletes deleting =>
          subst deleting
          exact absurd gives (attained.deletesLast program)
      | takes _ absent => cases present.symm.trans absent
  · have same : following.program thread = current.program thread :=
      Machine.step_other taken fun choice equal => acts ⟨choice, equal⟩
    rw [same] at gives
    rcases owned thread key gives with ⟨stored, present, own⟩
    have kept : following.shared.keys.idempotency key ≠ none := by
      intro absent
      refine undisturbed key thread ⟨?_, following, taken, absent⟩ ?_ gives
      · rw [present]
        exact Option.some_ne_none _
      · exact fun choice equal => acts ⟨choice, equal⟩
    cases label with
    | environment event =>
        rcases Machine.step_environment taken with ⟨shared, happened, rfl⟩
        rcases environment_keys key happened with unchanged | ⟨_, absent⟩
        · exact ⟨stored, unchanged.trans present, own⟩
        · exact absurd absent kept
    | perform other choice =>
        rcases Machine.step_perform taken with ⟨op, next, answer, shared, _, performed, rfl⟩
        have rewrites := perform_rewrites key performed
        generalize after : shared.keys.idempotency key = value at rewrites
        cases rewrites with
        | same => exact ⟨stored, present, own⟩
        | marks => exact ⟨_, rfl, by rintro ⟨⟩⟩
        | deletes => exact absurd after kept
        | takes _ absent => cases present.symm.trans absent

omit [DecidableEq Thread] [Fintype Thread] in
theorem GivesBack.not_initial {thread : Thread} {redis : Store} {now : ℕ} :
    ¬GivesBack key ((siteInitial config incoming redis now).program thread) := fun gives => by
  cases gives.carried (grip_program config (incoming thread) False)

theorem Attained.owned (attained : Attained config incoming Undisturbed current) :
    Owned current := by
  refine attained.invariant Owned (fun _ _ _ _ gives => absurd gives GivesBack.not_initial) ?_
  intro between label next attained owned undisturbed taken
  exact owned.step attained undisturbed taken

/-- Only the request that has set a key in flight and the expiry change it. -/
theorem keys_owned (attained : Attained config incoming Undisturbed current)
    (taken : siteStep current label = some following) {stored : Stored Thread}
    (present : current.shared.keys.idempotency key = some stored)
    (inFlight : stored.state = .inFlight)
    (changed : following.shared.keys.idempotency key ≠ some stored) :
    label = .environment (.expire (.key key)) ∨
      ∃ choice next, label = .perform stored.author choice ∧
        (current.program stored.author = .call (.inr (.setDone key)) next ∨
          current.program stored.author = .call (.inr (.del key)) next) := by
  cases label with
  | environment event =>
      rcases Machine.step_environment taken with ⟨shared, happened, rfl⟩
      rcases environment_keys key happened with unchanged | ⟨rfl, _⟩
      · exact absurd (unchanged.trans present) changed
      · exact .inl rfl
  | perform thread choice =>
      rcases Machine.step_perform taken with ⟨op, next, answer, shared, program, performed, rfl⟩
      have owner (gives : GivesBack key (current.program thread)) : stored.author = thread := by
        rcases attained.owned thread key gives with ⟨held, heldPresent, own⟩
        cases present.symm.trans heldPresent
        exact own inFlight
      have rewrites := perform_rewrites key performed
      generalize after : shared.keys.idempotency key = value at rewrites changed
      cases rewrites with
      | same => exact absurd present changed
      | marks marking =>
          subst marking
          have author := owner (program ▸ .marks next)
          exact .inr ⟨choice, next, by rw [author], .inl (by rw [author, program])⟩
      | deletes deleting =>
          subst deleting
          have author := owner (program ▸ .deletes next)
          exact .inr ⟨choice, next, by rw [author], .inr (by rw [author, program])⟩
      | takes _ absent => cases present.symm.trans absent

def keepsKeys (current : SiteConfiguration Thread) (label : SiteLabel Thread) : Bool :=
  match label with
  | .environment _ => false
  | .perform thread _ =>
      match current.program thread with
      | .call (.inr (.del _)) _ => false
      | _ => true

theorem undisturbed_of_keepsKeys (keeps : keepsKeys current label = true) :
    Undisturbed current label := by
  rintro key other ⟨present, following, taken, absent⟩ _ _
  cases label with
  | environment event => cases keeps
  | perform thread choice =>
      rcases Machine.step_perform taken with ⟨op, next, answer, shared, program, performed, rfl⟩
      have rewrites := perform_rewrites key performed
      generalize after : shared.keys.idempotency key = value at rewrites absent
      cases rewrites with
      | same => exact present absent
      | marks => cases absent
      | takes => cases absent
      | deletes deleting =>
          subst deleting
          simp only [keepsKeys, program] at keeps
          cases keeps

end Runs

/-! ## A deposit that outlives its key -/

def changesKey (current : SiteConfiguration (Fin 3)) (author : Fin 3) : Bool :=
  match current.shared.keys.idempotency depositKey, siteStep current (actSite 0) with
  | some stored, some following =>
      stored.state == .inFlight && stored.author == author &&
        (following.shared.keys.idempotency depositKey).isNone
  | _, _ => false

theorem changesKey_spec {current : SiteConfiguration (Fin 3)} {author : Fin 3}
    (changes : changesKey current author = true) : ∃ stored following,
      current.shared.keys.idempotency depositKey = some stored ∧ stored.state = .inFlight ∧
      stored.author = author ∧ siteStep current (actSite 0) = some following ∧
      following.shared.keys.idempotency depositKey ≠ some stored := by
  unfold changesKey at changes
  split at changes
  · rename_i stored following present taken
    simp only [Bool.and_eq_true, beq_iff_eq, Option.isNone_iff_eq_none] at changes
    rcases changes with ⟨⟨inFlight, author⟩, absent⟩
    exact ⟨stored, following, present, inFlight, author, taken, by rw [absent]; rintro ⟨⟩⟩
  · cases changes

private theorem alone_leads : siteLeadsTo {} (depositIncoming 5) keepsKeys
    (List.replicate 6 (actSite 0)) (fun current => changesKey current 0) = true := by
  decide +kernel

theorem keys_owned_alone : ∃ current following stored,
    Attained {} (depositIncoming 5) Undisturbed current ∧
      siteStep current (actSite 0) = some following ∧
      current.shared.keys.idempotency depositKey = some stored ∧
      ∃ choice next, actSite 0 = .perform stored.author choice ∧
        (current.program stored.author = .call (.inr (.setDone depositKey)) next ∨
          current.program stored.author = .call (.inr (.del depositKey)) next) := by
  rcases exists_attained (fun _ _ => undisturbed_of_keepsKeys) alone_leads with
    ⟨current, attained, passed⟩
  rcases changesKey_spec passed with ⟨stored, following, present, inFlight, _, taken, changed⟩
  refine ⟨current, following, stored, attained, taken, present, ?_⟩
  exact (keys_owned attained taken present inFlight changed).resolve_left (by rintro ⟨⟩)

/-- The key expires while the first request runs, and the second one sets it. -/
def outlivedSteps : List (SiteLabel (Fin 3)) :=
  List.replicate 6 (actSite 0) ++ [.environment (.expire (.key depositKey)), actSite 1, actSite 1]

private theorem outlived_leads : siteLeadsTo {} (depositIncoming 5) (fun _ _ => true) outlivedSteps
    (fun current => changesKey current 1) = true := by
  decide +kernel

theorem outlived_taken : ∃ current following stored,
    Attained {} (depositIncoming 5) Unrestricted current ∧
      siteStep current (actSite 0) = some following ∧
      current.shared.keys.idempotency depositKey = some stored ∧ stored.state = .inFlight ∧
      stored.author = 1 ∧ following.shared.keys.idempotency depositKey ≠ some stored := by
  rcases exists_attained (fun _ _ _ => trivial) outlived_leads with ⟨current, attained, passed⟩
  rcases changesKey_spec passed with
    ⟨stored, following, present, inFlight, author, taken, changed⟩
  exact ⟨current, following, stored, attained, taken, present, inFlight, author, changed⟩

end BankingBackend.Http
