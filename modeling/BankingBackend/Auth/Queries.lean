import BankingBackend.Auth.Commits

/-! # Statements of a call

What each statement makes of what its call knows, whatever the other calls do
meanwhile.
-/

namespace BankingBackend.Auth

open Foundation Users
open Postgres (Uuid DatabaseError)

section Queries

variable {Thread : Type} [DecidableEq Thread] (config : AuthConfig) (operation : Operation)
  (thread : Thread)

/-- What the program ends with, when it starts in `world`. -/
abbrev Meets {α : Type} (program : Service α)
    (post : Except ServiceError α → World Thread → Prop) (world : World Thread) : Prop :=
  EnsuresResult ((machine Thread config).perform thread) (Rely thread)
    (Guarantee thread config operation) program post world

def thrown {α : Type} (answer : Except DatabaseError α) : Except ServiceError α :=
  answer.mapError ServiceError.database

variable {config operation thread} {world : World Thread}

omit [DecidableEq Thread] in
theorem thrown_database (error : DatabaseError) (world : World Thread) :
    Thrown thread (.database error) world := by
  intro absurd
  cases absurd

/-! ## Issuing a request -/

theorem meets_query {statement : Statement} {stage : World Thread → Prop}
    {post : Except ServiceError statement.Result → World Thread → Prop}
    (holds : ∀ before, Kept thread world before → stage before)
    (performs : ∀ before newId answer after, stage before →
      Performs thread before.now newId before.server statement answer after →
      Grows thread config operation before { before with server := after } ∧
        post (thrown answer) { before with server := after }) :
    Meets config operation thread (query statement) post world := by
  intro before rely choice answer after performed
  simp only [machine, World.perform] at performed
  split at performed
  · cases performed
  · rename_i running
    have kept := rely (by simpa using running)
    rcases Option.map_eq_some_iff.mp performed with ⟨⟨reply, server⟩, done, equal⟩
    cases equal
    have performs' := perform_performs done
    have steps := performs before _ _ _ (holds before kept) performs'
    refine ⟨⟨performs'.coherent, rfl, rfl, performs'.apart, steps.1⟩, ?_⟩
    cases reply with
    | ok value => exact steps.2
    | error error => exact steps.2

theorem meets_request {command : Command} {stage : World Thread → Prop}
    {post : Except ServiceError command.Answer → World Thread → Prop}
    (coherent : world.server.Coherent) (holds : stage world) (stable : Stable thread stage)
    (answers : ∀ before choice answer after, stage before →
      before.perform config thread command choice = some (answer, after) →
      after = before ∧ post (.ok answer) before) :
    Meets config operation thread (request command) post world := by
  intro before rely choice answer after performed
  have running : before.crashed thread = false := by
    simp only [machine, World.perform] at performed
    split at performed
    · cases performed
    · rename_i running
      simpa using running
  have kept := rely running
  rcases answers before choice answer after (stable _ _ kept coherent holds) performed with
    ⟨rfl, holds⟩
  exact ⟨⟨id, rfl, rfl, .refl _, .inl rfl⟩, holds⟩

theorem meets_date {stage : World Thread → Prop} (coherent : world.server.Coherent)
    (holds : stage world) (stable : Stable thread stage) :
    Meets config operation thread (request .date)
      (Ends thread fun date final => stage final ∧ date = toDate final.now) world := by
  refine meets_request coherent holds stable fun before choice answer after there performed => ?_
  simp only [World.perform] at performed
  split at performed
  · cases performed
  · cases performed
    exact ⟨rfl, there, rfl⟩

theorem meets_bcryptHash {stage : World Thread → Prop} (password : String)
    (coherent : world.server.Coherent) (holds : stage world) (stable : Stable thread stage) :
    Meets config operation thread (request (.bcryptHash password))
      (Ends thread fun _ => stage) world := by
  refine meets_request coherent holds stable fun before choice answer after there performed => ?_
  simp only [World.perform] at performed
  split at performed
  · cases performed
  · cases performed
    exact ⟨rfl, there⟩

theorem meets_randomBytes {stage : World Thread → Prop} (coherent : world.server.Coherent)
    (holds : stage world) (stable : Stable thread stage) :
    Meets config operation thread (request .randomBytes) (Ends thread fun _ => stage) world := by
  refine meets_request coherent holds stable fun before choice answer after there performed => ?_
  simp only [World.perform] at performed
  split at performed
  · cases performed
  · cases performed
    exact ⟨rfl, there⟩

theorem meets_signAsync {stage : World Thread → Prop} (sub : Uuid)
    (coherent : world.server.Coherent) (holds : stage world) (stable : Stable thread stage) :
    Meets config operation thread (signAsync sub) (Ends thread fun _ => stage) world := by
  have asked : Meets config operation thread (request (.signAsync sub))
      (Ends thread fun _ => stage) world := by
    refine meets_request coherent holds stable fun before choice answer after there performed => ?_
    simp only [World.perform] at performed
    split at performed
    · cases performed
    · cases performed
      exact ⟨rfl, there⟩
  refine .bind asked (fun _ _ thrown => thrown) fun answer between there => ?_
  cases answer with
  | ok token => exact .pure there
  | error message =>
      refine .throw fun absurd => ?_
      cases absurd

/-! ## What a statement does to the log -/

section Growth

variable {statement : Statement} {newId : Uuid} {since : ℕ} {changes : List Change}
  {before : World Thread} {answer : Except DatabaseError statement.Result} {after : Server Thread}

theorem grows_opened (opened : Opened thread since changes before)
    (performs : Performs thread before.now newId before.server statement answer after)
    (other : statement ≠ .commit) : after.log = before.server.log := by
  cases performs.logs with
  | same log => exact log
  | commits transaction ends _ _ => exact absurd ends other
  | writes change base _ closed _ _ =>
      rcases opened.opened with ⟨transaction, opened, _, _⟩
      rw [opened] at closed
      cases closed

theorem grows_closed (closed : Closed thread before)
    (performs : Performs thread before.now newId before.server statement answer after)
    (silent : statement.change? before.now newId = none) : after.log = before.server.log := by
  cases performs.logs with
  | same log => exact log
  | commits transaction ends opened result =>
      rw [closed.closed] at opened
      cases opened
  | writes change base written _ _ _ =>
      rw [silent] at written
      cases written

theorem grows_written (closed : Closed thread before)
    (performs : Performs thread before.now newId before.server statement answer after)
    (lawful : ∀ change, statement.change? before.now newId = some change →
      Lawful thread config operation before.now [change] before) :
    Grows thread config operation before { before with server := after } := by
  cases performs.logs with
  | same log => exact .inl log
  | commits transaction ends opened result =>
      rw [closed.closed] at opened
      cases opened
  | writes change base written _ writes result =>
      subst result
      have log : (base.commit thread before.now
          { since := before.now, changes := [change] }).log = _ :: before.server.log :=
        congrArg (List.cons _) writes.log
      exact .inr ⟨_, log, rfl, rfl, le_rfl, lawful change written _
        ⟨rfl, rfl, rfl, congrFun writes.seen thread, congrFun writes.selected thread, rfl⟩⟩

theorem commit_of {answer : Except DatabaseError Unit}
    (opened : Opened thread since changes before)
    (performs : Performs thread before.now newId before.server .commit answer after) :
    after.log = before.server.log ∨ ∃ commit, after.log = commit :: before.server.log ∧
      commit.Of thread since changes before := by
  cases performs.logs with
  | same log => exact .inl log
  | commits transaction _ begun result =>
      subst result
      rcases opened.opened with ⟨known, opened, sinceEq, changesEq⟩
      rw [opened] at begun
      cases begun
      exact .inr ⟨_, rfl, rfl, sinceEq, rfl, rfl, rfl, changesEq⟩
  | writes change base written closed _ _ => cases written

end Growth

/-! ## Outside of a transaction -/

theorem meets_closed {statement : Statement} {fact : World Thread → Prop}
    {returns : statement.Result → World Thread → Prop} (closed : Closed thread world)
    (holds : fact world) (lasting : Lasting thread fact)
    (silent : ∀ now newId, statement.change? now newId = none)
    (answers : ∀ before newId answer after, Closed thread before → fact before →
      after.Coherent → after.log = before.server.log →
      Executes thread before.now newId before.server statement (.ok answer) after →
      returns answer { before with server := after }) :
    Meets config operation thread (query statement) (Ends thread returns) world := by
  refine meets_query (fun before kept =>
    (stable_closed.and lasting.stable) world before kept closed.coherent ⟨closed, holds⟩) ?_
  rintro before newId answer after ⟨closed, holds⟩ performs
  have log := grows_closed closed performs (silent _ _)
  refine ⟨.inl log, ?_⟩
  cases performs with
  | failed error equal _ =>
      subst equal
      exact thrown_database error _
  | answered executes =>
      cases answer with
      | error error => exact thrown_database error _
      | ok value =>
          exact answers before newId value after closed holds (executes.coherent closed.coherent)
            log executes

theorem Closed.view (closed : Closed thread world) :
    world.server.view thread = rowsOf world.server.log := by
  have pending := closed.coherent.pending thread
  rw [Server.changes_of_closed closed.closed] at pending
  rw [← Rows.replays_nil.mp pending.replays, closed.coherent.logged.rows_eq]

theorem findCustomer_view {server : Server Thread} {key : CustomerKey} {customer : Entity Customer}
    (found : server.findCustomer thread key = some customer) :
    (server.view thread).customers customer.id = some customer.row := by
  cases key with
  | id id =>
      rcases Option.map_eq_some_iff.mp found with ⟨row, visible, rfl⟩
      exact visible
  | email email =>
      rcases Option.map_eq_some_iff.mp found with ⟨pair, finds, rfl⟩
      exact (Table.find?_spec finds).1

theorem meets_findCustomer (key : CustomerKey) (closed : Closed thread world) :
    Meets config operation thread (query (.customerFindUnique key))
      (Ends thread fun found final => Closed thread final ∧ ∀ customer, found = some customer →
        Read thread customer final ∧ ∀ id, key = .id id → customer.id = id) world := by
  refine meets_closed closed True.intro lasting_nothing (fun _ _ => rfl) ?_
  intro before newId found after closed _ coherent log executes
  cases executes with
  | customerFindUnique _ =>
      refine ⟨⟨coherent, closed.closed⟩, fun customer finds => ?_⟩
      have seen : Function.update before.server.seen thread before.server.log.length thread =
          before.server.log.length := Function.update_self _ _ _
      refine ⟨⟨seen.le, ?_⟩, fun id same => ?_⟩
      · show (rowsOf (asOf (Function.update before.server.seen thread before.server.log.length
          thread) before.server.log)).customers customer.id = some customer.row
        rw [seen, asOf_length, ← closed.view]
        exact findCustomer_view finds
      · subst same
        rcases Option.map_eq_some_iff.mp finds with ⟨row, _, rfl⟩
        rfl

theorem meets_findToken {fact : World Thread → Prop} (tokenHash : String)
    (closed : Closed thread world) (holds : fact world) (lasting : Lasting thread fact) :
    Meets config operation thread (query (.refreshTokenFindUnique tokenHash))
      (Ends thread fun found final => Closed thread final ∧ fact final ∧
        ∀ token customer, found = some (token, some customer) →
          customer.id = token.row.customerId ∧
            Held token.id token.row.customerId token.row.passwordChanges final) world := by
  refine meets_closed closed holds lasting (fun _ _ => rfl) ?_
  intro before newId found after closed holds coherent log executes
  cases executes with
  | refreshTokenFindUnique _ =>
      refine ⟨closed, holds, fun token customer finds => ?_⟩
      rcases Option.map_eq_some_iff.mp finds with ⟨row, stored, equal⟩
      rw [Prod.mk.injEq] at equal
      rcases equal with ⟨rfl, owner⟩
      rcases Option.map_eq_some_iff.mp owner with ⟨_, _, rfl⟩
      rcases Option.map_eq_some_iff.mp stored with ⟨pair, found, rfl⟩
      refine ⟨rfl, pair.2, ?_, rfl, rfl⟩
      rw [← closed.view]
      exact (Table.find?_spec found).1

theorem meets_auditLogCreate {fact : World Thread → Prop} (data : AuditLogData)
    (closed : Closed thread world) (holds : fact world) (lasting : Lasting thread fact) :
    Meets config operation thread (query (.auditLogCreate data))
      (Ends thread fun _ final => Closed thread final ∧ fact final) world := by
  refine meets_closed closed holds lasting (fun _ _ => rfl) ?_
  intro before newId answer after closed holds coherent log executes
  have later : Later thread before { before with server := after } :=
    ⟨executes.coherent, le_rfl, congrFun (executes.remembers rfl).1 thread,
      congrFun (executes.remembers rfl).2 thread, [], log, fun _ absurd => by cases absurd⟩
  have kept := lasting _ _ later closed.coherent holds
  cases executes with
  | auditLogCreate _ => exact ⟨⟨coherent, closed.closed⟩, kept⟩

theorem Closed.writes {before : World Thread} {base : Server Thread} {change : Change}
    (closed : Closed thread before) (writes : before.server.Writes base thread change) :
    Closed thread { before with server := base.change thread before.now change } ∧
      ∃ commit, (base.change thread before.now change).log = commit :: before.server.log := by
  refine ⟨⟨closed.coherent.write writes, ?_⟩, ?_⟩
  · rw [change_of_closed change (writes.open_ ▸ closed.closed)]
    exact Function.update_self _ _ _
  · rw [change_of_closed change (writes.open_ ▸ closed.closed)]
    exact ⟨_, congrArg (List.cons _) writes.log⟩

theorem meets_written {statement : Statement} {fact : World Thread → Prop}
    {returns : statement.Result → World Thread → Prop} (closed : Closed thread world)
    (holds : fact world) (lasting : Lasting thread fact)
    (lawful : ∀ before newId change, Closed thread before → fact before →
      statement.change? before.now newId = some change →
      Lawful thread config operation before.now [change] before)
    (answers : ∀ before newId answer after, Closed thread before → fact before →
      Executes thread before.now newId before.server statement (.ok answer) after →
      returns answer { before with server := after }) :
    Meets config operation thread (query statement) (Ends thread returns) world := by
  refine meets_query (fun before kept =>
    (stable_closed.and lasting.stable) world before kept closed.coherent ⟨closed, holds⟩) ?_
  rintro before newId answer after ⟨closed, holds⟩ performs
  refine ⟨grows_written closed performs fun change written =>
    lawful before newId change closed holds written, ?_⟩
  cases performs with
  | failed error equal _ =>
      subst equal
      exact thrown_database error _
  | answered executes =>
      cases answer with
      | error error => exact thrown_database error _
      | ok value =>
          exact answers before newId value after closed holds executes

/-! ## In a transaction -/

theorem meets_opened {statement : Statement} {since : ℕ} {changes : List Change}
    {fact : World Thread → Prop} {returns : statement.Result → World Thread → Prop}
    (opened : Opened thread since changes world) (holds : fact world)
    (lasting : Lasting thread fact) (other : statement ≠ .commit)
    (unremembered : statement.remembered = false)
    (answers : ∀ before newId answer after, Opened thread since changes before →
      fact { before with server := after } → fact before → after.log = before.server.log →
      Executes thread before.now newId before.server statement (.ok answer) after →
      returns answer { before with server := after }) :
    Meets config operation thread (query statement) (Ends thread returns) world := by
  refine meets_query (fun before kept =>
    (stable_opened.and lasting.stable) world before kept opened.coherent ⟨opened, holds⟩) ?_
  rintro before newId answer after ⟨opened, holds⟩ performs
  have log := grows_opened opened performs other
  refine ⟨.inl log, ?_⟩
  cases performs with
  | failed error equal _ =>
      subst equal
      exact thrown_database error _
  | answered executes =>
      cases answer with
      | error error => exact thrown_database error _
      | ok value =>
          have reads := executes.remembers unremembered
          have later : Later thread before { before with server := after } :=
            ⟨executes.coherent, le_rfl, congrFun reads.1 thread, congrFun reads.2 thread,
              [], log, fun _ absurd => by cases absurd⟩
          exact answers before newId value after opened
            (lasting _ _ later opened.coherent holds) holds log
            executes

theorem Opened.writes {since : ℕ} {changes : List Change} {before : World Thread}
    {base : Server Thread} {change : Change} (opened : Opened thread since changes before)
    (writes : before.server.Writes base thread change) :
    Opened thread since (changes ++ [change])
      { before with server := base.change thread before.now change } := by
  rcases opened.opened with ⟨transaction, open_, since, changes⟩
  refine ⟨opened.coherent.write writes, opened.since_le, ?_⟩
  rw [← writes.open_] at open_
  subst changes
  refine ⟨{ transaction with changes := transaction.changes ++ [change] }, ?_, since, rfl⟩
  rw [change_of_open change open_]
  exact Function.update_self _ _ _

/-! ### The transaction itself -/

theorem meets_begin {fact : World Thread → Prop} (closed : Closed thread world) (holds : fact world)
    (lasting : Lasting thread fact) :
    Meets config operation thread (query .begin)
      (Ends thread fun _ final => fact final ∧ ∃ since, Opened thread since [] final) world := by
  refine meets_query (fun before kept =>
    (stable_closed.and lasting.stable) world before kept closed.coherent ⟨closed, holds⟩) ?_
  rintro before newId answer after ⟨closed, holds⟩ performs
  have coherent := closed.coherent
  have log := grows_closed closed performs rfl
  refine ⟨.inl log, ?_⟩
  cases performs with
  | failed error equal _ =>
      subst equal
      exact thrown_database error _
  | answered executes =>
      have after' := executes.coherent coherent
      have apart := executes.remembers rfl
      have later : Later thread before { before with server := after } :=
        ⟨fun _ => after', le_rfl, congrFun apart.1 thread, congrFun apart.2 thread,
          [], log, fun _ absurd => by cases absurd⟩
      cases executes with
      | begin _ =>
          exact ⟨lasting _ _ later coherent holds, before.now, after', le_rfl, _,
            Function.update_self _ _ _, rfl, rfl⟩
      | beginOpen transaction opened =>
          rw [closed.closed] at opened
          cases opened
      | refused _ error refusable => cases refusable

theorem meets_rollback {error : ServiceError} (thrown : Thrown thread error world) :
    Meets config operation thread (query .rollback) (fun _ final => Thrown thread error final)
      world := by
  have holds (before : World Thread) (kept : Kept thread world before) :
      Thrown thread error before := fun same => kept.toLater.uncommitted (thrown same)
  refine meets_query holds ?_
  intro before newId answer after thrown performs
  have log : after.log = before.server.log := by
    cases performs.logs with
    | same log => exact log
    | commits transaction ends _ _ => cases ends
    | writes change base written _ _ _ => cases written
  refine ⟨.inl log, fun same commit member => ?_⟩
  exact thrown same commit (log ▸ member)

theorem meets_commit {since : ℕ} {changes : List Change} {fact returns : World Thread → Prop}
    (opened : Opened thread since changes world) (holds : fact world)
    (lasting : Lasting thread fact)
    (lawful : ∀ before, fact before → Lawful thread config operation since changes before)
    (returned : ∀ before commit after, fact before → before.server.Coherent →
      after.server.log = commit :: before.server.log → commit.Of thread since changes before →
      Closed thread after → returns after) :
    Meets config operation thread (query .commit) (Ends thread fun _ => returns) world := by
  refine meets_query (fun before kept =>
    (stable_opened.and lasting.stable) world before kept opened.coherent ⟨opened, holds⟩) ?_
  rintro before newId answer after ⟨opened, holds⟩ performs
  have coherent := opened.coherent
  refine ⟨?_, ?_⟩
  · rcases commit_of opened performs with log | ⟨commit, log, of⟩
    · exact .inl log
    · exact .inr ⟨commit, log, of.mine, of.now, (of.since.trans_le opened.since_le).trans_eq
        of.now.symm, lawful before holds commit of⟩
  · cases performs with
    | failed error equal _ =>
        subst equal
        exact thrown_database error _
    | answered executes =>
        have after' := executes.coherent coherent
        rcases opened.opened with ⟨transaction, opened, sinceEq, changesEq⟩
        cases executes with
        | commit begun same =>
            rw [opened] at same
            cases same
            exact returned before _ _ holds coherent rfl ⟨rfl, sinceEq, rfl, rfl, rfl, changesEq⟩
              ⟨after', Function.update_self _ _ _⟩
        | commitClosed closed =>
            rw [opened] at closed
            cases closed
        | refused _ error refusable => cases refusable

/-- A transaction commits what its body has changed, or throws. -/
theorem meets_transaction {α : Type} {body : Service α} {fact : World Thread → Prop}
    {returns : α → World Thread → Prop} (inside : α → ℕ → List Change → World Thread → Prop)
    (closed : Closed thread world) (holds : fact world) (lasting : Lasting thread fact)
    (works : ∀ since begun, Opened thread since [] begun → fact begun →
      Meets config operation thread body (Ends thread fun value final => ∃ changes,
        Opened thread since changes final ∧ inside value since changes final) begun)
    (lastingInside : ∀ value since changes, Lasting thread (inside value since changes))
    (lawful : ∀ value since changes before, inside value since changes before →
      Lawful thread config operation since changes before)
    (returned : ∀ value since changes before commit after, inside value since changes before →
      before.server.Coherent → after.server.log = commit :: before.server.log →
      commit.Of thread since changes before → Closed thread after → returns value after) :
    Meets config operation thread (transaction body) (Ends thread returns) world := by
  refine .bind (meets_begin closed holds lasting) (fun _ _ thrown => thrown) ?_
  rintro _ begun ⟨known, since, opened⟩
  refine .attempt (works since begun opened known) fun outcome between ends => ?_
  cases outcome with
  | ok value =>
      rcases ends with ⟨changes, opened, inside⟩
      refine .bind (meets_commit opened inside (lastingInside value since changes)
        (lawful value since changes)
        fun before commit after known coherent log of closed =>
          returned value since changes before commit after known coherent log of closed)
        (fun _ _ thrown => thrown) fun _ final holds => ?_
      exact .pure holds
  | error error =>
      refine .attempt (meets_rollback ends) fun _ final thrown => ?_
      exact .throw thrown

end Queries

end BankingBackend.Auth
