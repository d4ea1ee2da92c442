import BankingBackend.Auth.Effects

/-! # Profile updates

An update writes all fields: those that its request lacks are written as the call
has read them.
-/

namespace BankingBackend.Auth

open Foundation Users
open Postgres (Uuid DatabaseError)

/-! ## The fields of a profile -/

inductive ProfileField
  | email
  | name
  | phone
  deriving DecidableEq, Repr

def Customer.field (customer : Customer) : ProfileField → String
  | .email => customer.email
  | .name => customer.name
  | .phone => customer.phone

def CustomerData.field (data : CustomerData) : ProfileField → String
  | .email => data.email
  | .name => data.name
  | .phone => data.phone

def UpdateUserMeRequestDto.field (dto : UpdateUserMeRequestDto) : ProfileField → Option String
  | .email => dto.email
  | .name => dto.name
  | .phone => dto.phone

theorem field_new (data : CustomerData) (field : ProfileField) :
    (Customer.new data).field field = data.field field := by
  cases field <;> rfl

theorem field_profileUpdate (dto : UpdateUserMeRequestDto) (user customer : Customer)
    (field : ProfileField) :
    (customer.update (profileUpdate dto user)).field field =
      (dto.field field).getD (user.field field) := by
  cases field <;> rfl

/-! ## Updates and the log -/

section Updates

variable {Thread : Type} (requests : Thread → Request)

def Change.original? (id : Uuid) (field : ProfileField) : Change → Option String
  | .customerCreated other data => if other = id then some (data.field field) else none
  | _ => none

def Commit.fieldValue (id : Uuid) (field : ProfileField) (commit : Commit Thread) :
    Option String :=
  match (requests commit.thread).operation with
  | .putMe userId dto => if userId = id then dto.field field else none
  | _ => commit.changes.findSome? (Change.original? id field)

/-- A profile update changes what it was asked to, and each field has the value that was asked
for last. -/
structure UpdatesKept (world : World Thread) : Prop where
  only : ∀ commit ∈ world.server.log, ∀ userId dto,
    (requests commit.thread).operation = .putMe userId dto → ∀ field, dto.field field = none →
      ∀ before after, commit.before.customers userId = some before →
        commit.after.customers userId = some after → after.field field = before.field field
  last : ∀ id customer, world.server.rows.customers id = some customer → ∀ field,
    world.server.log.findSome? (Commit.fieldValue requests id field) = some (customer.field field)

/-- The fields that the request of a profile update lacks are as the call has read them. -/
def UnchangedSince (older : List (Commit Thread)) (commit : Commit Thread) : Prop :=
  ∀ userId dto, (requests commit.thread).operation = .putMe userId dto → ∀ field,
    dto.field field = none → ∀ read current,
      (rowsOf (asOf commit.seen older)).customers userId = some read →
        (rowsOf older).customers userId = some current → current.field field = read.field field

def ProfilesUpdated [DecidableEq Thread] (config : AuthConfig)
    (condition : List (Commit Thread) → Commit Thread → Prop) : Prop :=
  ∀ current, Reachable config requests (Committing config condition) current →
    UpdatesKept requests current.shared

variable {requests} {config : AuthConfig} {log older : List (Commit Thread)}
  {commit : Commit Thread} {rows before after : Rows} {change : Change} {changes : List Change}
  {id : Uuid} {later : Customer} {field : ProfileField}

def Change.keepsProfile (id : Uuid) (change : Change) : Prop :=
  (∀ data, change ≠ .customerCreated id data) ∧
    ∀ email name phone requested, change ≠ .customerUpdated id (.profile email name phone requested)

theorem Change.profile_kept (applies : change.apply before = some after)
    (keeps : change.keepsProfile id) (found : after.customers id = some later) :
    ∃ customer, before.customers id = some customer ∧
      ∀ field, later.field field = customer.field field := by
  cases Change.leaves applies found with
  | untouched elsewhere same => exact ⟨later, same, fun _ => rfl⟩
  | created data absent result => exact absurd rfl (keeps.1 data)
  | updated data customer present result =>
      refine ⟨customer, present, fun field => ?_⟩
      subst result
      cases data with
      | profile email name phone requested => exact absurd rfl (keeps.2 email name phone requested)
      | password passwordHash => cases field <;> rfl
      | resetLogin => cases field <;> rfl
  | failed threshold durationMinutes now customer present result =>
      refine ⟨customer, present, fun field => ?_⟩
      subst result
      cases field <;> rfl

theorem Rows.Replays.profile_kept (replays : Rows.Replays changes before after)
    (keeps : ∀ change ∈ changes, change.keepsProfile id) (found : after.customers id = some later) :
    ∃ customer, before.customers id = some customer ∧
      ∀ field, later.field field = customer.field field := by
  induction changes generalizing before with
  | nil =>
      rw [Rows.replays_nil] at replays
      exact ⟨later, replays ▸ found, fun _ => rfl⟩
  | cons change rest induction =>
      rcases Rows.replays_cons.mp replays with ⟨between, applies, ends⟩
      rcases induction ends (fun other member => keeps other (.tail _ member)) with
        ⟨version, present, same⟩
      rcases Change.profile_kept applies (keeps change (.head _)) present with
        ⟨customer, had, sameBefore⟩
      exact ⟨customer, had, fun field => (same field).trans (sameBefore field)⟩

/-- A change that neither registers a customer nor updates a profile. -/
def Change.apartFromProfiles : Change → Bool
  | .customerCreated _ _ => false
  | .customerUpdated _ (.profile _ _ _ _) => false
  | _ => true

theorem Change.apartFromProfiles.keepsProfile (apart : change.apartFromProfiles = true) :
    change.keepsProfile id := by
  constructor
  · rintro data rfl
    cases apart
  · rintro email name phone requested rfl
    cases apart

theorem Change.original?_of_apart (apart : change.apartFromProfiles = true) :
    change.original? id field = none := by
  cases change with
  | customerCreated other data => cases apart
  | _ => rfl

/-- Registrations and profile updates make one change; other calls leave the profiles. -/
theorem Shape.profiles {operation : Operation} (shape : Shape older commit config operation) :
    (∃ dto newId data, operation = .register dto ∧ commit.changes = [.customerCreated newId data]) ∨
    (∃ userId dto user, operation = .putMe userId dto ∧
      commit.changes = [.customerUpdated userId (profileUpdate dto user)] ∧
      (rowsOf (asOf commit.seen older)).customers userId = some user) ∨
    (∀ userId dto, operation ≠ .putMe userId dto) ∧
      ∀ change ∈ commit.changes, change.apartFromProfiles = true := by
  have revoked {revokes : List Change} (revoking : Revokes revokes) {change : Change}
      (member : change ∈ revokes) : change.apartFromProfiles = true := by
    rcases revoking change member with ⟨_, _, rfl⟩
    rfl
  cases shape with
  | registered newId data changes => exact .inl ⟨_, newId, data, rfl, changes⟩
  | profileUpdated user changes read => exact .inr (.inl ⟨_, _, user, rfl, changes, read⟩)
  | loginIssued customer revokes newId data changes revoking =>
      refine .inr (.inr ⟨by rintro _ _ ⟨⟩, fun change member => ?_⟩)
      rw [changes, List.mem_append, List.mem_singleton] at member
      rcases member with member | rfl
      · exact revoked revoking member
      · rfl
  | passwordChanged passwordHash revokes changes revoking =>
      refine .inr (.inr ⟨by rintro _ _ ⟨⟩, fun change member => ?_⟩)
      rw [changes, List.mem_cons] at member
      rcases member with rfl | member
      · rfl
      · exact revoked revoking member
  | loginFailed _ changes =>
      exact .inr (.inr ⟨by rintro _ _ ⟨⟩, by simp [changes, Change.apartFromProfiles]⟩)
  | loginReset _ changes =>
      exact .inr (.inr ⟨by rintro _ _ ⟨⟩, by simp [changes, Change.apartFromProfiles]⟩)
  | refreshed _ _ _ _ _ _ changes =>
      exact .inr (.inr ⟨by rintro _ _ ⟨⟩, by simp [changes, Change.apartFromProfiles]⟩)
  | loggedOut _ _ changes =>
      exact .inr (.inr ⟨by rintro _ _ ⟨⟩, by simp [changes, Change.apartFromProfiles]⟩)

theorem UnchangedSince.updates {userId : Uuid} {dto : UpdateUserMeRequestDto} {user : Customer}
    (condition : UnchangedSince requests older commit) (logged : Logged (commit :: older) rows)
    (operation : (requests commit.thread).operation = .putMe userId dto)
    (changes : commit.changes = [.customerUpdated userId (profileUpdate dto user)])
    (read : (rowsOf (asOf commit.seen older)).customers userId = some user)
    (found : commit.after.customers userId = some later) :
    ∃ customer, commit.before.customers userId = some customer ∧ ∀ field,
      later.field field = (dto.field field).getD (customer.field field) := by
  have replays := logged.2.1
  rw [changes, Rows.replays_singleton] at replays
  cases Change.leaves replays found with
  | untouched elsewhere same => exact absurd rfl elsewhere
  | updated _ customer present result =>
      refine ⟨customer, present, fun field => ?_⟩
      rw [result, field_profileUpdate]
      cases requested : dto.field field with
      | some value => rfl
      | none =>
          rw [logged.before_eq] at present
          exact (condition userId dto operation field requested user customer read present).symm

theorem last_of_logged (logged : Logged log rows) (history : History config requests log)
    (conditions : ∀ commit older, commit :: older <:+ log → UnchangedSince requests older commit)
    (found : rows.customers id = some later) :
    log.findSome? (Commit.fieldValue requests id field) = some (later.field field) := by
  induction log generalizing rows later with
  | nil =>
      cases logged
      cases found
  | cons commit older induction =>
      have before {customer : Customer} (present : commit.before.customers id = some customer) :
          older.findSome? (Commit.fieldValue requests id field) = some (customer.field field) :=
        induction logged.2.2 history.tail (fun other rest part =>
          conditions other rest (part.trans (List.suffix_cons _ _))) present
      have replays := logged.2.1
      rw [← logged.1] at found
      rw [List.findSome?_cons]
      rcases history.head.shape.profiles with
        ⟨dto, newId, data, operation, changes⟩ |
          ⟨userId, dto, user, operation, changes, read⟩ | ⟨others, apart⟩
      · by_cases same : newId = id
        · subst newId
          rw [changes, Rows.replays_singleton] at replays
          cases Change.leaves replays found with
          | untouched elsewhere _ => exact absurd rfl elsewhere
          | created _ absent result =>
              simp [Commit.fieldValue, operation, changes, Change.original?, result, field_new]
        · have keeps : ∀ change ∈ commit.changes, change.keepsProfile id := by
            intro change member
            rw [changes, List.mem_singleton] at member
            subst member
            refine ⟨fun other equal => ?_, by rintro _ _ _ _ ⟨⟩⟩
            cases equal
            exact same rfl
          rcases replays.profile_kept keeps found with ⟨customer, present, fields⟩
          simp [Commit.fieldValue, operation, changes, Change.original?, same, before present, fields]
      · by_cases same : userId = id
        · subst userId
          rcases (conditions commit older (List.suffix_refl _)).updates logged operation changes read
            found with ⟨customer, present, fields⟩
          cases requested : dto.field field with
          | some value => simp [Commit.fieldValue, operation, requested, fields]
          | none => simp [Commit.fieldValue, operation, requested, fields, before present]
        · have keeps : ∀ change ∈ commit.changes, change.keepsProfile id := by
            intro change member
            rw [changes, List.mem_singleton] at member
            subst member
            refine ⟨(by rintro _ ⟨⟩), fun email name phone requested equal => ?_⟩
            cases equal
            exact same rfl
          rcases replays.profile_kept keeps found with ⟨customer, present, fields⟩
          simp [Commit.fieldValue, operation, same, before present, fields]
      · rcases replays.profile_kept (fun change member =>
            Change.apartFromProfiles.keepsProfile (apart change member)) found with
          ⟨customer, present, fields⟩
        have nothing : Commit.fieldValue requests id field commit = none := by
          unfold Commit.fieldValue
          split
          · rename_i userId dto operation
            exact absurd operation (others userId dto)
          · exact List.findSome?_eq_none_iff.mpr fun change member =>
              Change.original?_of_apart (apart change member)
        rw [nothing, fields]
        exact before present

theorem profiles_updated [DecidableEq Thread] (config : AuthConfig)
    (requests : Thread → Request) :
    ProfilesUpdated requests config (UnchangedSince requests) := by
  intro current reachable
  have chronicle := reachable.chronicle
  have logged := chronicle.coherent.logged
  refine ⟨fun commit member userId dto operation field lacks before after had has => ?_,
    fun id customer found field =>
      last_of_logged logged chronicle.history reachable.conditions found⟩
  rcases List.append_of_mem member with ⟨newer, older, log⟩
  have part : commit :: older <:+ current.shared.server.log := ⟨newer, log.symm⟩
  have shape := (chronicle.history commit older part).shape
  rw [operation] at shape
  cases shape with
  | profileUpdated user changes read =>
      rcases (reachable.conditions commit older part).updates (logged.suffix part) operation changes
        read has with ⟨customer, present, fields⟩
      rw [had] at present
      cases present
      rw [fields, lacks]
      rfl

end Updates

/-! ## Two updates of one profile -/

def updating (dto : UpdateUserMeRequestDto) : Request where
  operation := .putMe ⟨7⟩ dto

def twoUpdates : Fin 3 → Request
  | 0 => registering
  | 1 => updating { name := some "B" }
  | 2 => updating { phone := some "2" }

/-- Both updates read the profile before one of them writes it. -/
def twoUpdatesSteps : List (Label (Fin 3)) :=
  List.replicate 7 (act 0 7) ++ [act 1, act 2, act 1, act 2]

private theorem twoUpdates_lead : leadsTo sampleConfig twoUpdates twoUpdatesSteps
    (fun current => (current.shared.server.rows.customers ⟨7⟩).map Customer.name == some "A" &&
      current.shared.server.log.findSome? (Commit.fieldValue twoUpdates ⟨7⟩ .name) == some "B") =
        true := by
  decide +kernel

theorem two_updates : ¬ProfilesUpdated twoUpdates sampleConfig fun _ _ => True := by
  intro updated
  rcases exists_reachable sampleConfig twoUpdates (fun _ _ _ _ _ _ => True.intro)
      twoUpdates_lead with ⟨current, reachable, passed⟩
  rw [Bool.and_eq_true, beq_iff_eq, beq_iff_eq, Option.map_eq_some_iff] at passed
  rcases passed with ⟨⟨customer, found, name⟩, asked⟩
  have last := (updated current reachable).last ⟨7⟩ customer found .name
  rw [asked, Option.some.injEq] at last
  rw [Customer.field, name] at last
  exact absurd last (by decide)

end BankingBackend.Auth
