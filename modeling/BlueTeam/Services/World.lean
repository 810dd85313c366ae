/- GID: BlueTeam/Services/World
   generality: I
   source: services/api/app/core/db.py and the SQLAlchemy calls of services/api/app/services
   digest: The state the services run on: a session without autoflush, the clock and the ids. -/

import BlueTeam.Lib.Exec
import BlueTeam.Schema.Records

set_option autoImplicit false
set_option relaxedAutoImplicit false

namespace BlueTeam.Services

open BlueTeam.Python BlueTeam.Schema BlueTeam.Lib

structure World where
  session : Session schema
  ticks : Ticks := {}

/-- What a service raises: an exception of the language, or one of the database or of its own. The
database's `MultipleResultsFound` is kept with the table whose lookup raised it. -/
inductive Failure
  | python (e : Exn)
  | integrityError (c : Conflict schema)
  | multipleResultsFound (t : Table)
  | blueTeamError (code message : String) (status : Nat)
  deriving DecidableEq

abbrev Service (α : Type) := Exec World Failure α

/-- A computation that only draws ids and reads the clock. -/
def draw {α : Type} (m : Draw α) : Service α :=
  Exec.zoom World.ticks (fun w t => { w with ticks := t }) .python m

/-- A computation that touches no state. -/
def compute {α : Type} (r : Except Exn α) : Service α :=
  Exec.lift (r.mapError .python)

/-- `select(t).where(t.tenant_id == tenant_id, ...)`, in insertion order. The session does not
flush on its own, so rows that are only added are not seen. -/
def select (t : Table) (tenantId : String) (p : t.Row → Bool) : Service (List t.Row) :=
  Exec.gets fun w => (w.session.stored t).filter fun r => Table.tenantId r = tenantId && p r

def scalarOneOrNone {t : Table} : List t.Row → Except Failure (Option t.Row)
  | [] => .ok none
  | [r] => .ok (some r)
  | _ => .error (.multipleResultsFound t)

def selectOne (t : Table) (tenantId : String) (p : t.Row → Bool) : Service (Option t.Row) := do
  let rows ← select t tenantId p
  Exec.lift (scalarOneOrNone rows)

/-- `db.get(t, id)`: by primary key alone, whatever the tenant. -/
def get (t : Table) (id : String) : Service (Option t.Row) :=
  Exec.gets fun w => (w.session.stored t).find? fun r => Table.id r = id

def add {t : Table} (r : t.Row) : Service Unit :=
  Exec.modify fun w => { w with session := w.session.add (S := schema) r }

def flush : Service Unit := fun w =>
  match w.session.flush with
  | .ok session => (.ok (), { w with session := session })
  | .error c => (.error (.integrityError c), w)

/-- Change loaded rows. -/
def update (t : Table) (f : t.Row → t.Row) : Service Unit :=
  Exec.modify fun w => { w with session := w.session.update t f }

/-- `db.delete` of every row of the tenant. -/
def deleteAll (t : Table) (tenantId : String) : Service Unit :=
  Exec.modify fun w =>
    { w with session := w.session.delete t fun r => Table.tenantId r = tenantId }

/-- A request as `get_db` runs it: commit (which flushes) after a normal return, roll back after an
exception. Ids and clock readings that were used stay used. -/
def request {α : Type} (m : Service α) : Service α := fun w =>
  match (m >>= fun a => flush >>= fun _ => pure a) w with
  | (.ok a, w') => (.ok a, w')
  | (.error e, w') => (.error e, { session := w.session, ticks := w'.ticks })

end BlueTeam.Services
