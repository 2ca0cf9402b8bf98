import EventsAggregator.Db.Models
import EventsAggregator.Relational.Paging
import EventsAggregator.Relational.Table
import EventsAggregator.Values.Dates

namespace EventsAggregator

open Relational

namespace EventRepository

def matching (events : Table EventORM.id) (dateFrom : Option Date) : List EventORM :=
  events.rows.filter fun event => dateFrom.all fun date => date.midnight ≤ event.eventTime

/-- `SELECT ... ORDER BY event_time LIMIT limit OFFSET offset`. PostgreSQL refuses a negative
    `limit` or `offset`. -/
def EventsList (events : Table EventORM.id) (dateFrom : Option Date) (limit offset : Int)
    (rows : List EventORM) : Prop :=
  0 ≤ limit ∧ 0 ≤ offset ∧
    ∃ sorted, Ordered EventORM.eventTime (matching events dateFrom) sorted ∧
      rows = (sorted.drop offset.toNat).take limit.toNat

def count (events : Table EventORM.id) (dateFrom : Option Date) : Nat :=
  (matching events dateFrom).length

theorem matching_ids_nodup (events : Table EventORM.id) (dateFrom : Option Date) :
    ((matching events dateFrom).map EventORM.id).Nodup :=
  events.unique.sublist (List.filter_sublist.map EventORM.id)

end EventRepository

end EventsAggregator
