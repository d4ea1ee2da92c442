import BankingBackend.Foundation.Restriction

/-! # Monitored programs

A monitor keeps a state of its own along the requests of one program and their
answers. What it permits and how the program ends are then facts about the program
alone, which every machine that runs it inherits.
-/

namespace BankingBackend.Foundation

/-- `moves` says what becomes of the state with an answer, and which answers are
possible. -/
structure Monitor (interface : Interface) (Track : Type) where
  permits : Track → interface.Op → Prop
  moves : Track → (op : interface.Op) → interface.Answer op → Track → Prop

namespace Monitor

section Programs

variable {interface : Interface} {Track α β : Type} (monitor : Monitor interface Track)

/-- Every request is permitted, and the program ends in `post`, whatever the answers. -/
def Follows (post : α → Track → Prop) : Program interface α → Track → Prop
  | .done value, track => post value track
  | .call op next, track => monitor.permits track op ∧
      ∀ answer following, monitor.moves track op answer following →
        Follows post (next answer) following

variable {monitor} {post weaker : α → Track → Prop} {program : Program interface α} {track : Track}

theorem Follows.mono (follows : monitor.Follows post program track)
    (implies : ∀ value final, post value final → weaker value final) :
    monitor.Follows weaker program track := by
  induction program generalizing track with
  | done value => exact implies value track follows
  | call op next induction =>
      exact ⟨follows.1, fun answer following moves =>
        induction answer (follows.2 answer following moves)⟩

theorem Follows.bind {next : α → Program interface β} {middle : α → Track → Prop}
    {post : β → Track → Prop} (first : monitor.Follows middle program track)
    (continues : ∀ value between, middle value between →
      monitor.Follows post (next value) between) :
    monitor.Follows post (program >>= next) track := by
  induction program generalizing track with
  | done value => exact continues value track first
  | call op rest induction =>
      exact ⟨first.1, fun answer following moves =>
        induction answer (first.2 answer following moves)⟩

theorem Follows.ite {condition : Prop} [Decidable condition] {other : Program interface α}
    (holds : condition → monitor.Follows post program track)
    (fails : ¬condition → monitor.Follows post other track) :
    monitor.Follows post (if condition then program else other) track := by
  split
  · exact holds ‹_›
  · exact fails ‹_›

theorem Follows.and_yields {good : α → Prop} (follows : monitor.Follows post program track)
    (yields : program.Yields good) :
    monitor.Follows (fun value final => post value final ∧ good value) program track := by
  induction program generalizing track with
  | done value => exact ⟨follows, yields⟩
  | call op next induction =>
      exact ⟨follows.1, fun answer following moves =>
        induction answer (follows.2 answer following moves) (yields answer)⟩

/-- A program whose requests keep something true of the monitor's state. -/
theorem Follows.of_only {permitted : interface.Op → Prop} (holds : Track → Prop)
    (only : program.Only permitted)
    (keeps : ∀ track op, permitted op → holds track →
      monitor.permits track op ∧
        ∀ answer following, monitor.moves track op answer following → holds following)
    (initially : holds track) : monitor.Follows (fun _ => holds) program track := by
  induction program generalizing track with
  | done value => exact initially
  | call op next induction =>
      have kept := keeps track op only.1 initially
      exact ⟨kept.1, fun answer following moves =>
        induction answer (only.2 answer) (kept.2 answer following moves)⟩

/-- A monitor with fewer answers that permits all the requests of the program. -/
theorem Follows.refine {stricter : Monitor interface Track} {permitted : interface.Op → Prop}
    (follows : monitor.Follows post program track) (only : program.Only permitted)
    (permits : ∀ track op, permitted op → stricter.permits track op)
    (moves : ∀ track op answer following, stricter.moves track op answer following →
      monitor.moves track op answer following) : stricter.Follows post program track := by
  induction program generalizing track with
  | done value => exact follows
  | call op next induction =>
      exact ⟨permits track op only.1, fun answer following moved =>
        induction answer (follows.2 answer following (moves _ _ _ _ moved)) (only.2 answer)⟩

/-- It keeps every request with its answer, in order. -/
def recorder (interface : Interface) :
    Monitor interface (List (Σ op : interface.Op, interface.Answer op)) where
  permits _ _ := True
  moves track op answer following := following = track ++ [⟨op, answer⟩]

def answered (answers : (op : interface.Op) → interface.Answer op) :
    Program interface α → α × List (Σ op : interface.Op, interface.Answer op)
  | .done value => (value, [])
  | .call op next =>
      let rest := answered answers (next (answers op))
      (rest.1, ⟨op, answers op⟩ :: rest.2)

theorem Follows.answered {post : α → List (Σ op : interface.Op, interface.Answer op) → Prop}
    {track : List (Σ op : interface.Op, interface.Answer op)}
    (follows : (recorder interface).Follows post program track)
    (answers : (op : interface.Op) → interface.Answer op) :
    post (Monitor.answered answers program).1 (track ++ (Monitor.answered answers program).2) := by
  induction program generalizing track with
  | done value =>
      show post value (track ++ [])
      rwa [List.append_nil]
  | call op next induction =>
      have rest := induction (answers op) (follows.2 (answers op) _ rfl)
      simpa [Monitor.answered] using rest

theorem answered_only {permitted : interface.Op → Prop} (only : program.Only permitted)
    (answers : (op : interface.Op) → interface.Answer op) :
    ∀ exchange ∈ (Monitor.answered answers program).2, permitted exchange.1 := by
  induction program with
  | done value => rintro exchange ⟨⟩
  | call op next induction =>
      intro exchange member
      rcases List.mem_cons.mp member with rfl | member
      · exact only.1
      · exact induction (answers op) (only.2 (answers op)) exchange member

/-! ### Programs that may fail -/

variable {Error : Type}

def outcome (answers : (op : interface.Op) → interface.Answer op)
    (program : ExceptT Error (Program interface) α) : Except Error α :=
  (Monitor.answered answers program.run).1

theorem answered_bind (answers : (op : interface.Op) → interface.Answer op)
    (next : α → Program interface β) : (Monitor.answered answers (program >>= next)).1 =
      (Monitor.answered answers (next (Monitor.answered answers program).1)).1 := by
  induction program with
  | done value => rfl
  | call op rest induction => exact induction (answers op)

/-- A program that asks before it goes on. -/
theorem outcome_lift (answers : (op : interface.Op) → interface.Answer op) (op : interface.Op)
    (next : interface.Answer op → ExceptT Error (Program interface) α) :
    outcome answers (ExceptT.lift (.call op .done : Program interface (interface.Answer op)) >>=
      next) = outcome answers (next (answers op)) := rfl

theorem outcome_bind (answers : (op : interface.Op) → interface.Answer op)
    (program : ExceptT Error (Program interface) α)
    (next : α → ExceptT Error (Program interface) β) :
    outcome answers (program >>= next) =
      outcome answers program >>= fun value => outcome answers (next value) := by
  simp only [outcome]
  rw [ExceptT.run_bind, answered_bind]
  cases (Monitor.answered answers program.run).1 with
  | ok value => rfl
  | error error => rfl

theorem outcome_attempt (answers : (op : interface.Op) → interface.Answer op)
    (program : ExceptT Error (Program interface) α) :
    outcome answers (Program.attempt program) = .ok (outcome answers program) :=
  answered_bind answers _

theorem outcome_tryCatch (answers : (op : interface.Op) → interface.Answer op)
    (program : ExceptT Error (Program interface) α)
    (handler : Error → ExceptT Error (Program interface) α) :
    outcome answers (tryCatch program handler) =
      tryCatch (outcome answers program) fun error => outcome answers (handler error) := by
  revert program
  intro (program : Program interface (Except Error α))
  induction program with
  | done result =>
      cases result with
      | ok value => rfl
      | error error => rfl
  | call op rest induction => exact induction (answers op)

/-- `Follows` for a program that may throw. -/
def Obeys (monitor : Monitor interface Track) (post : Except Error α → Track → Prop)
    (program : ExceptT Error (Program interface) α) (track : Track) : Prop :=
  monitor.Follows post program.run track

variable {post weaker : Except Error α → Track → Prop}
  {program : ExceptT Error (Program interface) α}

theorem Obeys.mono (obeys : monitor.Obeys post program track)
    (implies : ∀ result final, post result final → weaker result final) :
    monitor.Obeys weaker program track := Follows.mono obeys implies

theorem Obeys.pure {value : α} (holds : post (.ok value) track) :
    monitor.Obeys post (pure value : ExceptT Error (Program interface) α) track := holds

theorem Obeys.throw {error : Error} (holds : post (.error error) track) :
    monitor.Obeys post (throw error : ExceptT Error (Program interface) α) track := holds

theorem Obeys.bind {next : α → ExceptT Error (Program interface) β}
    {middle : Except Error α → Track → Prop} {post : Except Error β → Track → Prop}
    (first : monitor.Obeys middle program track)
    (fails : ∀ error final, middle (.error error) final → post (.error error) final)
    (rest : ∀ value between, middle (.ok value) between →
      monitor.Obeys post (next value) between) :
    monitor.Obeys post (program >>= next) track := by
  unfold Obeys
  rw [ExceptT.run_bind]
  refine Follows.bind first fun result between holds => ?_
  cases result with
  | ok value => exact rest value between holds
  | error error => exact fails error between holds

theorem Obeys.map {convert : α → β} {middle : Except Error α → Track → Prop}
    {post : Except Error β → Track → Prop} (first : monitor.Obeys middle program track)
    (fails : ∀ error final, middle (.error error) final → post (.error error) final)
    (succeeds : ∀ value final, middle (.ok value) final → post (.ok (convert value)) final) :
    monitor.Obeys post (convert <$> program) track := by
  refine Follows.bind first fun result between holds => ?_
  cases result with
  | ok value => exact succeeds value between holds
  | error error => exact fails error between holds

theorem Obeys.tryCatch {handler : Error → ExceptT Error (Program interface) α}
    {middle : Except Error α → Track → Prop} (first : monitor.Obeys middle program track)
    (succeeds : ∀ value final, middle (.ok value) final → post (.ok value) final)
    (handles : ∀ error between, middle (.error error) between →
      monitor.Obeys post (handler error) between) :
    monitor.Obeys post (tryCatch program handler) track := by
  refine Follows.bind first fun result between holds => ?_
  cases result with
  | ok value => exact succeeds value between holds
  | error error => exact handles error between holds

theorem Obeys.attempt {next : Except Error α → ExceptT Error (Program interface) β}
    {middle : Except Error α → Track → Prop} {post : Except Error β → Track → Prop}
    (first : monitor.Obeys middle program track)
    (rest : ∀ outcome between, middle outcome between →
      monitor.Obeys post (next outcome) between) :
    monitor.Obeys post (Program.attempt program >>= next) track := by
  have unfolded : (Program.attempt program).run =
      program.run >>= fun result => .done (.ok result) := rfl
  unfold Obeys
  rw [ExceptT.run_bind, unfolded]
  have attempted : monitor.Follows (fun result between => ∃ outcome,
      result = Except.ok outcome ∧ middle outcome between)
      (program.run >>= fun result => .done (.ok result) :
        Program interface (Except Error (Except Error α))) track :=
    Follows.bind first fun outcome between holds => ⟨outcome, rfl, holds⟩
  refine attempted.bind ?_
  rintro _ between ⟨outcome, rfl, holds⟩
  exact rest outcome between holds

end Programs

/-! ## Monitored machines -/

section Machines

variable {interface : Interface} {Track Thread Choice Event State α : Type} [DecidableEq Thread]
  {machine : Machine interface Thread Choice Event State}

/-! ### One thread -/

/-- The state of the monitor says something about the shared state, which the permitted answers
to the thread keep up with and the other steps leave true. -/
structure Mirrors (monitor : Monitor interface Track)
    (machine : Machine interface Thread Choice Event State) (thread : Thread)
    (permitted : Choice → State → Prop) (relates : Track → State → Prop) : Prop where
  acts : ∀ {track op choice before answer after}, relates track before →
    monitor.permits track op → permitted choice before →
    machine.perform thread op choice before = some (answer, after) →
    ∃ following, monitor.moves track op answer following ∧ relates following after
  others : ∀ {other track op choice before answer after}, thread ≠ other →
    relates track before → machine.perform other op choice before = some (answer, after) →
    relates track after
  environment : ∀ {track event before after}, relates track before →
    machine.environment event before = some after → relates track after

def Tracked (monitor : Monitor interface Track) (relates : Track → State → Prop)
    (post : α → Track → Prop) (thread : Thread)
    (current : Configuration interface Thread State α) : Prop :=
  ∃ track, relates track current.shared ∧ monitor.Follows post (current.program thread) track

section Thread

variable {monitor : Monitor interface Track} {thread : Thread} {permitted : Choice → State → Prop}
  {relates : Track → State → Prop} {post : α → Track → Prop}
  {current following : Configuration interface Thread State α}

theorem Tracked.step (tracked : Tracked monitor relates post thread current)
    (mirrors : Mirrors monitor machine thread permitted relates) {action : Action Thread Choice Event}
    (permits : ∀ choice, action = .perform thread choice → permitted choice current.shared)
    (taken : machine.step current action = some following) :
    Tracked monitor relates post thread following := by
  rcases tracked with ⟨track, related, follows⟩
  cases action with
  | environment event =>
      rcases Machine.step_environment taken with ⟨shared, happened, rfl⟩
      exact ⟨track, mirrors.environment related happened, follows⟩
  | perform acting choice =>
      rcases Machine.step_perform taken with ⟨op, next, answer, shared, program, performed, rfl⟩
      by_cases same : thread = acting
      · subst same
        rw [program] at follows
        rcases mirrors.acts related follows.1 (permits choice rfl) performed with
          ⟨later, moves, relatedLater⟩
        refine ⟨later, relatedLater, ?_⟩
        simpa using follows.2 answer later moves
      · refine ⟨track, mirrors.others same related performed, ?_⟩
        simpa [same] using follows

theorem Tracked.run {allowed : Configuration interface Thread State α →
      Action Thread Choice Event → Prop} {start final : Configuration interface Thread State α}
    (tracked : Tracked monitor relates post thread start)
    (mirrors : Mirrors monitor machine thread permitted relates)
    (permits : ∀ between choice, allowed between (.perform thread choice) →
      permitted choice between.shared)
    (run : Run machine.step allowed start final) : Tracked monitor relates post thread final := by
  refine run.invariant _ tracked fun between action next tracked allows taken => ?_
  exact tracked.step mirrors (fun choice same => permits between choice (same ▸ allows)) taken

end Thread

/-! ### The requests of a run -/

section Records

variable (machine) (thread : Thread)

def exchanged (current : Configuration interface Thread State α) :
    Action Thread Choice Event → List (Σ op : interface.Op, interface.Answer op)
  | .environment _ => []
  | .perform acting choice =>
      if acting = thread then
        match current.program thread with
        | .done _ => []
        | .call op _ =>
            match machine.perform thread op choice current.shared with
            | none => []
            | some (answer, _) => [⟨op, answer⟩]
      else []

inductive Records (start : Configuration interface Thread State α) :
    List (Σ op : interface.Op, interface.Answer op) →
      Configuration interface Thread State α → Prop
  | start : Records start [] start
  | next {trace : List (Σ op : interface.Op, interface.Answer op)}
      {current following : Configuration interface Thread State α}
      (action : Action Thread Choice Event) (records : Records start trace current)
      (taken : machine.step current action = some following) :
      Records start (trace ++ exchanged machine thread current action) following

def record : Configuration interface Thread State α → List (Action Thread Choice Event) →
    Option (List (Σ op : interface.Op, interface.Answer op) ×
      Configuration interface Thread State α)
  | current, [] => some ([], current)
  | current, action :: actions =>
      (machine.step current action).bind fun following =>
        (record following actions).map fun rest =>
          (exchanged machine thread current action ++ rest.1, rest.2)

variable {machine thread} {start current final : Configuration interface Thread State α}
  {trace more : List (Σ op : interface.Op, interface.Answer op)}

theorem Records.run (records : Records machine thread start trace current) :
    Run machine.step Unrestricted start current := by
  induction records with
  | start => exact .start
  | next action _ taken induction => exact .next action induction True.intro taken

theorem records_of_record {actions : List (Action Thread Choice Event)}
    (records : Records machine thread start trace current)
    (recorded : record machine thread current actions = some (more, final)) :
    Records machine thread start (trace ++ more) final := by
  induction actions generalizing trace current more with
  | nil =>
      cases recorded
      rwa [List.append_nil]
  | cons action actions induction =>
      rcases Option.bind_eq_some_iff.mp recorded with ⟨following, taken, rest⟩
      rcases Option.map_eq_some_iff.mp rest with ⟨⟨later, ended⟩, continued, same⟩
      cases same
      rw [← List.append_assoc]
      exact induction (.next action records taken) continued

theorem exchanged_perform {choice : Choice} {following : Configuration interface Thread State α}
    (taken : machine.step current (.perform thread choice) = some following) :
    ∃ op next answer shared, current.program thread = .call op next ∧
      machine.perform thread op choice current.shared = some (answer, shared) ∧
      following.shared = shared ∧ following.program thread = next answer ∧
      exchanged machine thread current (.perform thread choice) = [⟨op, answer⟩] := by
  rcases Machine.step_perform taken with ⟨op, next, answer, shared, program, performed, rfl⟩
  exact ⟨op, next, answer, shared, program, performed, rfl, Function.update_self _ _ _,
    by simp [exchanged, program, performed]⟩

theorem exchanged_other {action : Action Thread Choice Event}
    (other : ∀ choice, action ≠ .perform thread choice) :
    exchanged machine thread current action = [] := by
  cases action with
  | environment event => rfl
  | perform acting choice =>
      have different : acting ≠ thread := fun same => other choice (same ▸ rfl)
      simp [exchanged, different]

/-- What the program ends in is true of its requests along the run. -/
theorem Records.follows
    {post : α → List (Σ op : interface.Op, interface.Answer op) → Prop}
    (records : Records machine thread start trace current)
    (follows : (recorder interface).Follows post (start.program thread) []) :
    (recorder interface).Follows post (current.program thread) trace := by
  induction records with
  | start => exact follows
  | @next trace current following action _ taken induction =>
      by_cases own : ∃ choice, action = .perform thread choice
      · rcases own with ⟨choice, rfl⟩
        rcases exchanged_perform taken with ⟨op, next, answer, shared, program, _, _, continues, asked⟩
        rw [program] at induction
        rw [continues, asked]
        exact induction.2 answer _ rfl
      · have other (choice : Choice) : action ≠ .perform thread choice :=
          fun same => own ⟨choice, same⟩
        rw [Machine.step_other taken other, exchanged_other other, List.append_nil]
        exact induction

end Records

/-! ### All threads -/

/-- Every thread's monitor keeps up with every answer. -/
structure Reflects (monitors : Thread → Monitor interface Track)
    (machine : Machine interface Thread Choice Event State)
    (relates : Thread → Track → State → Prop) : Prop where
  acts : ∀ {thread track op choice before answer after}, relates thread track before →
    (monitors thread).permits track op → machine.perform thread op choice before = some (answer, after) →
    ∃ following, (monitors thread).moves track op answer following ∧
      relates thread following after
  others : ∀ {thread other track op choice before answer after}, thread ≠ other →
    relates thread track before → machine.perform other op choice before = some (answer, after) →
    relates thread track after
  environment : ∀ {thread track event before after}, relates thread track before →
    machine.environment event before = some after → relates thread track after

def Tracks (monitors : Thread → Monitor interface Track)
    (relates : Thread → Track → State → Prop) (post : Thread → α → Track → Prop)
    (current : Configuration interface Thread State α) : Prop :=
  ∀ thread, ∃ track, relates thread track current.shared ∧
    (monitors thread).Follows (post thread) (current.program thread) track

variable {monitors : Thread → Monitor interface Track} {relates : Thread → Track → State → Prop}
  {post : Thread → α → Track → Prop} {current following : Configuration interface Thread State α}

omit [DecidableEq Thread] in
theorem Reflects.mirrors (reflects : Reflects monitors machine relates) (thread : Thread) :
    Mirrors (monitors thread) machine thread (fun _ _ => True) (relates thread) where
  acts related permits _ performed := reflects.acts related permits performed
  others := reflects.others
  environment := reflects.environment

theorem Tracks.run {allowed : Configuration interface Thread State α →
      Action Thread Choice Event → Prop} {start final : Configuration interface Thread State α}
    (tracks : Tracks monitors relates post start) (reflects : Reflects monitors machine relates)
    (run : Run machine.step allowed start final) : Tracks monitors relates post final :=
  fun thread => Tracked.run (tracks thread) (reflects.mirrors thread) (fun _ _ _ => True.intro) run

/-! ### Threads that count on each other -/

/-- Every thread's monitor keeps up with every permitted answer while the other threads keep to
their monitors. `holds` is known of the shared state besides. -/
structure Shares (monitors : Thread → Monitor interface Track)
    (machine : Machine interface Thread Choice Event State) (holds : State → Prop)
    (permitted : Thread → interface.Op → Choice → State → Prop) (passes : Event → Prop)
    (relates : Thread → Track → State → Prop) : Prop where
  acts : ∀ {thread track op choice before answer after}, holds before →
    relates thread track before → (monitors thread).permits track op →
    permitted thread op choice before →
    machine.perform thread op choice before = some (answer, after) →
    ∃ following, (monitors thread).moves track op answer following ∧
      relates thread following after
  others : ∀ {thread other track otherTrack op choice before answer after}, thread ≠ other →
    relates thread track before → relates other otherTrack before →
    (monitors other).permits otherTrack op → permitted other op choice before →
    machine.perform other op choice before = some (answer, after) → relates thread track after
  environment : ∀ {thread track event before after}, relates thread track before →
    passes event → machine.environment event before = some after → relates thread track after

theorem Tracks.step {holds : State → Prop}
    {permitted : Thread → interface.Op → Choice → State → Prop} {passes : Event → Prop}
    (tracks : Tracks monitors relates post current)
    (shares : Shares monitors machine holds permitted passes relates)
    {action : Action Thread Choice Event} (held : holds current.shared)
    (permits : ∀ thread choice op next, action = .perform thread choice →
      current.program thread = .call op next → permitted thread op choice current.shared)
    (passed : ∀ event, action = .environment event → passes event)
    (taken : machine.step current action = some following) :
    Tracks monitors relates post following := by
  intro thread
  rcases tracks thread with ⟨track, related, follows⟩
  cases action with
  | environment event =>
      rcases Machine.step_environment taken with ⟨shared, happened, rfl⟩
      exact ⟨track, shares.environment related (passed event rfl) happened, follows⟩
  | perform acting choice =>
      rcases Machine.step_perform taken with ⟨op, next, answer, shared, program, performed, rfl⟩
      have permission := permits acting choice op next rfl program
      by_cases same : thread = acting
      · subst same
        rw [program] at follows
        rcases shares.acts held related follows.1 permission performed with
          ⟨later, moves, relatedLater⟩
        refine ⟨later, relatedLater, ?_⟩
        simpa using follows.2 answer later moves
      · rcases tracks acting with ⟨otherTrack, otherRelated, otherFollows⟩
        rw [program] at otherFollows
        refine ⟨track, shares.others same related otherRelated otherFollows.1 permission performed,
          ?_⟩
        simpa [same] using follows

end Machines

end Monitor

end BankingBackend.Foundation
