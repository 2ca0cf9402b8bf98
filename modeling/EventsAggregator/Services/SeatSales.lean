import EventsAggregator.Clients.SeatProvider
import EventsAggregator.Services.Effects

namespace EventsAggregator

open Relational Transition

/-- All registrations that were ever granted, each under an id of its own, and those that stand. -/
structure Ledger where
  standing : Registrations
  granted : List Registration
  once : (granted.map Registration.ticketId).Nodup
  known : ∀ r ∈ standing.held, r ∈ granted

def ledgerProvider (layout : UUID → List Text) : Provider where
  State := Ledger
  Initial _ := True
  Handles ledger call answer ledger' :=
    (seatProvider layout).Handles ledger.standing call answer ledger'.standing ∧
      ∀ r ∈ ledger.granted, r ∈ ledger'.granted

theorem answered_released {layout : UUID → List Text} {held held' : Registrations}
    {call : ProviderCall} {answer : ProviderAnswer}
    (answered : Answered layout held call answer held') {r : Registration} (member : r ∈ held.held)
    (gone : r ∉ held'.held) : ∃ eventId, call = .unregister eventId r.ticketId := by
  cases answered with
  | seats | refused | declined | unknown => exact absurd member gone
  | granted available fresh => exact absurd (List.mem_cons_of_mem _ member) gone
  | @released eventId ticketId known =>
    have own : r.ticketId = ticketId := by
      apply Classical.byContradiction
      intro other
      exact gone (List.mem_filter.mpr ⟨member, decide_eq_true other⟩)
    exact ⟨eventId, own ▸ rfl⟩

theorem handles_released {layout : UUID → List Text} {held held' : Registrations}
    {call : ProviderCall} {answer : ProviderAnswer}
    (handled : (seatProvider layout).Handles held call answer held') {r : Registration}
    (member : r ∈ held.held) (gone : r ∉ held'.held) :
    ∃ eventId, call = .unregister eventId r.ticketId := by
  rcases handled with answered | ⟨_, _, rfl | ⟨_, answered⟩⟩
  · exact answered_released answered member gone
  · exact absurd member gone
  · exact answered_released answered member gone

variable {Process : Type} {layout : UUID → List Text} {runtime : Runtime}
  {s t : State Process (ledgerProvider layout)} {a : Action Process}
  {moves : List (Move (State Process (ledgerProvider layout)) (Action Process))}

def HandlesCancellation (m : Move (State Process (ledgerProvider layout)) (Action Process))
    (ticketId : UUID) : Prop :=
  ∃ eventId, (∃ i answer task, m.action = .answer i answer ∧ m.source.tasks i = some task ∧
      task.code.call = some (.unregister eventId ticketId)) ∨
    ∃ answer, m.action = .late (.unregister eventId ticketId) answer

/-- The provider releases the registration upon a request of the service to cancel it. -/
structure Withdraws (m : Move (State Process (ledgerProvider layout)) (Action Process))
    (ticketId : UUID) : Prop where
  asked : HandlesCancellation m ticketId
  stood : m.source.provider.standing.Holds ticketId
  released : ¬ m.target.provider.standing.Holds ticketId

structure Sold (moves : List (Move (State Process (ledgerProvider layout)) (Action Process)))
    (t : State Process (ledgerProvider layout)) (r : Registration) : Prop where
  granted : r ∈ t.provider.granted
  standing : r ∈ t.provider.standing.held ∨ ∃ m ∈ moves, Withdraws m r.ticketId

structure Registration.Records (r : Registration) (row : TicketORM) : Prop where
  ticketId : row.ticketId = r.ticketId
  eventId : row.eventId = r.eventId
  firstName : row.firstName = r.payload.firstName
  lastName : row.lastName = r.payload.lastName
  email : row.email = r.payload.email
  seat : row.seat = r.payload.seat

def purchasedRegistration (payload : SEventRegistrationCreate) (ticketId : UUID) : Registration :=
  ⟨ticketId, payload.eventId, payload.toProvider⟩

def Code.Sold (moves : List (Move (State Process (ledgerProvider layout)) (Action Process)))
    (t : State Process (ledgerProvider layout)) : Code → Prop
  | .register payload (.registerAnswered _ (.ok ticketId))
  | .register payload (.commit _ ticketId _) =>
    EventsAggregator.Sold moves t (purchasedRegistration payload ticketId)
  | _ => True

structure AllSold (moves : List (Move (State Process (ledgerProvider layout)) (Action Process)))
    (t : State Process (ledgerProvider layout)) : Prop where
  codes : EveryCode (Code.Sold moves t) t
  rows : ∀ row ∈ t.db.tickets.rows, ∃ r, Sold moves t r ∧ r.Records row

theorem granted_held {r : Registration} (granted : r ∈ t.provider.granted)
    (holds : t.provider.standing.Holds r.ticketId) : r ∈ t.provider.standing.held := by
  obtain ⟨own, member, same⟩ := List.mem_map.mp holds
  have one : own = r :=
    List.inj_on_of_nodup_map t.provider.once (t.provider.known own member) granted same
  exact one ▸ member

theorem sold_handled {call : ProviderCall} {answer : ProviderAnswer} {r : Registration}
    (handled : (ledgerProvider layout).Handles s.provider call answer t.provider)
    (asked : ∀ eventId ticketId, call = .unregister eventId ticketId →
      HandlesCancellation ⟨s, a, t⟩ ticketId) (sold : Sold moves s r) :
    Sold (⟨s, a, t⟩ :: moves) t r := by
  have granted := handled.2 r sold.granted
  constructor
  · exact granted
  · rcases sold.standing with standing | ⟨m, member, withdraws⟩
    · by_cases still : r ∈ t.provider.standing.held
      · exact .inl still
      · obtain ⟨eventId, same⟩ := handles_released handled.1 standing still
        have stood : s.provider.standing.Holds r.ticketId := List.mem_map.mpr ⟨r, standing, rfl⟩
        have released : ¬ t.provider.standing.Holds r.ticketId := fun holds =>
          still (granted_held granted holds)
        exact .inr ⟨_, List.mem_cons_self .., asked eventId _ same, stood, released⟩
    · exact .inr ⟨m, List.mem_cons_of_mem _ member, withdraws⟩

theorem sold_same {r : Registration} (same : t.provider = s.provider) (sold : Sold moves s r) :
    Sold (⟨s, a, t⟩ :: moves) t r := by
  constructor
  · rw [same]
    exact sold.granted
  · rw [same]
    rcases sold.standing with standing | ⟨m, member, withdraws⟩
    · exact .inl standing
    · exact .inr ⟨m, List.mem_cons_of_mem _ member, withdraws⟩

variable [DecidableEq Process]

theorem sold_step (step : Step runtime s a t) {r : Registration} (sold : Sold moves s r) :
    Sold (⟨s, a, t⟩ :: moves) t r := by
  cases step with
  | @answer i task code call answer provider found asked handled received =>
    apply sold_handled handled _ sold
    rintro eventId ticketId rfl
    exact ⟨eventId, .inl ⟨i, answer, task, rfl, found, asked⟩⟩
  | @late call answer provider waiting handled =>
    apply sold_handled handled _ sold
    rintro eventId ticketId rfl
    exact ⟨eventId, .inr ⟨answer, rfl⟩⟩
  | start | lockKey | resume | commit | fail | disconnect | tick | evict | upsert | publish =>
    exact sold_same rfl sold

theorem code_sold_step (step : Step runtime s a t) (every : EveryCode (Code.Sold moves s) s) :
    EveryCode (Code.Sold (⟨s, a, t⟩ :: moves) t) t := by
  have still : EveryCode (Code.Sold (⟨s, a, t⟩ :: moves) t) s := by
    intro i task found
    have own := every i task found
    unfold Code.Sold at own ⊢
    split at own
    · exact sold_step step own
    · exact sold_step step own
    · trivial
  apply every_code step still
  · intro job
    cases job with
    | register payload =>
      unfold Job.begin
      rcases beginRegister_cases payload with ⟨_, same⟩ | ⟨key, _, same⟩
      all_goals simp only [same]
      all_goals trivial
    | unregister | seats => trivial
  · intro code code' own moved
    cases moved with
    | same => exact own
    | locked payload key => trivial
    | resumed unchanged resumed =>
      cases resume_cases resumed with
      | granted => exact own
      | _ => trivial
    | received asked handled received =>
      unfold Code.receive at received
      split at received <;> cases received
      case h_2 payload event result =>
        cases result with
        | error => trivial
        | ok ticketId =>
          cases asked
          have standing := (handles_granted handled.1).1
          exact ⟨t.provider.known _ standing, .inl standing⟩
      all_goals trivial
    | committed committing accepted =>
      unfold Code.commit at committing
      split at committing <;> cases committing <;> trivial
    | failed acting failed =>
      unfold Code.fail at failed
      split at failed <;> cases failed <;> trivial

theorem rows_sold_step (step : Step runtime s a t) (all : AllSold moves s) :
    ∀ row ∈ t.db.tickets.rows, ∃ r, Sold (⟨s, a, t⟩ :: moves) t r ∧ r.Records row := by
  have kept : ∀ row ∈ s.db.tickets.rows,
      ∃ r, Sold (⟨s, a, t⟩ :: moves) t r ∧ r.Records row := by
    intro row member
    obtain ⟨r, sold, records⟩ := all.rows row member
    exact ⟨r, sold_step step sold, records⟩
  intro row member
  have change := step_db step
  generalize t.db = db at change member
  cases change with
  | unchanged | upserted | published => exact kept row member
  | @registered i task payload event ticketId outboxId now db found connected committing written =>
    rw [((Table.insert?_eq_some _ _ _).mp written.ticket).2] at member
    rcases List.mem_append.mp member with old | new
    · exact kept row old
    · have own := all.codes i task found
      rw [committing] at own
      cases List.mem_singleton.mp new
      exact ⟨purchasedRegistration payload ticketId, sold_step step own,
        ⟨rfl, rfl, rfl, rfl, rfl, rfl⟩⟩
  | deleted | cancelled => exact kept row ((Table.mem_erase _ _ _).mp member).1

/-- No seat is sold twice: every ticket is a registration that the provider granted, to the same
    person for the same seat, and of the tickets of one seat at most one still stands. The
    provider has handled a cancellation of every ticket that does not. -/
theorem no_seat_sold_twice (initial : (system Process runtime (ledgerProvider layout)).Initial s)
    (run : Run (system Process runtime (ledgerProvider layout)) s moves t) :
    (∀ row ∈ t.db.tickets.rows, ∃ r ∈ t.provider.granted, r.Records row) ∧
      (∀ row ∈ t.db.tickets.rows, ∀ row' ∈ t.db.tickets.rows, row.eventId = row'.eventId →
        row.seat = row'.seat → t.provider.standing.Holds row.ticketId →
        t.provider.standing.Holds row'.ticketId → row = row') ∧
      ∀ row ∈ t.db.tickets.rows, ¬ t.provider.standing.Holds row.ticketId →
        ∃ m ∈ moves, Withdraws m row.ticketId := by
  have all : AllSold moves t := by
    obtain ⟨none, _, _, _, _, idle, _⟩ := initial
    apply run.history (I := AllSold)
    · intro moves u a v _ all step
      exact ⟨code_sold_step step all.codes, rows_sold_step step all⟩
    · constructor
      · exact every_initial idle
      · simp [none]
  refine ⟨?_, ?_, ?_⟩
  · intro row member
    obtain ⟨r, sold, records⟩ := all.rows row member
    exact ⟨r, sold.granted, records⟩
  · intro row member row' member' event seat holds holds'
    obtain ⟨r, sold, records⟩ := all.rows row member
    obtain ⟨r', sold', records'⟩ := all.rows row' member'
    have place : r.place = r'.place := by
      rw [Registration.place, Registration.place, ← records.eventId, ← records'.eventId,
        ← records.seat, ← records'.seat, event, seat]
    have one : r = r' := Registrations.held_unique _ (granted_held sold.granted (records.ticketId ▸ holds))
      (granted_held sold'.granted (records'.ticketId ▸ holds')) place
    apply t.db.tickets.row_unique member member'
    rw [records.ticketId, records'.ticketId, one]
  · intro row member gone
    obtain ⟨r, sold, records⟩ := all.rows row member
    rcases sold.standing with standing | ⟨m, inside, withdraws⟩
    · exact absurd (List.mem_map.mpr ⟨r, standing, records.ticketId.symm⟩) gone
    · exact ⟨m, inside, records.ticketId ▸ withdraws⟩

def soldRegistration (ticketId : UUID) : Registration :=
  purchasedRegistration (samplePayload none unkeyed) ticketId

def Ledger.single (earlier : List Registration) (r : Registration)
    (once : ((r :: earlier).map Registration.ticketId).Nodup) : Ledger where
  standing := .single r
  granted := r :: earlier
  once := once
  known := by simp [Registrations.single, Registrations.grant, Registrations.empty]

def Ledger.none (granted : List Registration)
    (once : (granted.map Registration.ticketId).Nodup) : Ledger where
  standing := .empty
  granted := granted
  once := once
  known := by simp [Registrations.empty]

def unsold : Ledger := Ledger.none [] List.nodup_nil

theorem single_sold {ledger : Ledger} (ticketId : UUID)
    (once : ((soldRegistration ticketId :: ledger.granted).map Registration.ticketId).Nodup)
    (vacant : ledger.standing = .empty) :
    (ledgerProvider oneSeat).Handles ledger
      (.register ⟨1⟩ (samplePayload none unkeyed).toProvider) (.registration (.ok ticketId))
      (Ledger.single ledger.granted (soldRegistration ticketId) once) := by
  constructor
  · left
    rw [vacant]
    exact single_granted rfl
  · intro r there
    exact List.mem_cons_of_mem _ there

theorem single_withdrawn {ledger : Ledger} (ticketId : UUID)
    (once : (ledger.granted.map Registration.ticketId).Nodup)
    (taken : ledger.standing = .single (soldRegistration ticketId)) :
    (ledgerProvider oneSeat).Handles ledger (.unregister ⟨1⟩ ticketId) (.cancellation (.ok true))
      (Ledger.none ledger.granted once) := by
  constructor
  · left
    rw [taken]
    exact @single_answered (soldRegistration ticketId) _
  · intro r there
    exact there

/-- A seat is sold again while its cancellation is not yet committed. -/
theorem resold_seat : ∃ moves t, Run (system Unit sampleRuntime (ledgerProvider oneSeat))
    (sampleState (ledgerProvider oneSeat) unsold) moves t ∧
      t.db.tickets.rows.map (fun row => (row.ticketId, row.seat)) =
        [(⟨7⟩, "A1"), (⟨8⟩, "A1")] ∧
      ¬ t.provider.standing.Holds ⟨7⟩ ∧ t.provider.standing.Holds ⟨8⟩ := by
  have start := @Run.refl _ _ (system Unit sampleRuntime (ledgerProvider oneSeat))
    (sampleState (ledgerProvider oneSeat) unsold)
  have requested := start.move
    (Step.start () (.register (samplePayload none unkeyed)) (rfl : State.tasks _ 0 = none))
  have checked := requested.move (Step.resume (rfl : State.tasks _ 0 = some _) (fun _ => rfl) rfl)
  have seats := checked.move (@Step.answer _ _ _ _ _ 0 _ _ _ _ unsold rfl rfl
    ⟨.inl (Answered.seats ⟨1⟩), fun _ there => there⟩ rfl)
  have free := seats.move (Step.resume (rfl : State.tasks _ 0 = some _) (fun _ => rfl) rfl)
  have granted := free.move (@Step.answer _ _ _ _ _ 0 _ _ _ _ _ rfl rfl
    (@single_sold unsold ⟨7⟩ (by decide) rfl) rfl)
  have staged := granted.move (Step.resume (rfl : State.tasks _ 0 = some _) (fun _ => rfl) rfl)
  have bought := staged.move (@Step.commit _ _ _ _ _ 0 _ _ ⟨100⟩ _ _ rfl rfl rfl rfl)
  have cancelling := bought.move
    (Step.start () (.unregister ⟨7⟩) (rfl : State.tasks _ 1 = none))
  have asking := cancelling.move
    (Step.resume (rfl : State.tasks _ 1 = some _) (fun _ => rfl) rfl)
  have released := asking.move (@Step.answer _ _ _ _ _ 1 _ _ _ _ _ rfl rfl
    (@single_withdrawn (Ledger.single [] (soldRegistration ⟨7⟩) (by decide)) ⟨7⟩ (by decide) rfl)
    rfl)
  have again := released.move
    (Step.start () (.register (samplePayload none unkeyed)) (rfl : State.tasks _ 2 = none))
  have cached := again.move (Step.resume (rfl : State.tasks _ 2 = some _) (fun _ => rfl) rfl)
  have regranted := cached.move (@Step.answer _ _ _ _ _ 2 _ _ _ _ _ rfl rfl
    (@single_sold (Ledger.none [soldRegistration ⟨7⟩] (by decide)) ⟨8⟩ (by decide) rfl) rfl)
  have restaged := regranted.move (Step.resume (rfl : State.tasks _ 2 = some _) (fun _ => rfl) rfl)
  have rebought := restaged.move (@Step.commit _ _ _ _ _ 2 _ _ ⟨101⟩ _ _ rfl rfl rfl rfl)
  exact ⟨_, _, rebought, rfl, by decide, by decide⟩

theorem no_seat_sold_twice_resold : ∃ moves t,
    Run (system Unit sampleRuntime (ledgerProvider oneSeat))
      (sampleState (ledgerProvider oneSeat) unsold) moves t ∧
      t.db.tickets.rows.map (fun row => (row.ticketId, row.seat)) =
        [(⟨7⟩, "A1"), (⟨8⟩, "A1")] ∧ ∃ m ∈ moves, Withdraws m ⟨7⟩ := by
  obtain ⟨moves, t, run, rows, gone, _⟩ := resold_seat
  obtain ⟨_, _, withdrawn⟩ := no_seat_sold_twice (sample_initial trivial) run
  have first : (⟨7⟩, "A1") ∈ t.db.tickets.rows.map (fun row => (row.ticketId, row.seat)) := by
    rw [rows]
    exact List.mem_cons_self ..
  obtain ⟨row, member, same⟩ := List.mem_map.mp first
  have own : row.ticketId = ⟨7⟩ := congrArg Prod.fst same
  have cancelled := withdrawn row member (own ▸ gone)
  exact ⟨moves, t, run, rows, own ▸ cancelled⟩

end EventsAggregator
