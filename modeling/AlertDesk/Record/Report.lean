import AlertDesk.Record

/-!
# AlertDesk.Record.Report

Generated reports.  Only the identifier is interpreted; every other member is
carried through as it is, so a report can be shown and written back without
loss.

The other members may be assigned freely.  A member assigned under the key `id`
stands in front of the identifier when the report is written.
-/

namespace AlertDesk

/-- A report. -/
structure Report where
  id : String := ""
  fields : Dict Json := Dict.empty
  deriving DecidableEq

namespace Report

/-- The one field of a report that is interpreted. -/
def layout : Layout where
  wanted := "struct Report"
  fields := [{ name := "id", check := checkText }]

/-- Reads a report. -/
def decode (v : Json) : Except PortalError Report := do
  let fields ← decoded (layout.readObject v)
  requireId .report Report.id {
    id := textOf (Keyed.get? "id" fields)
    fields := Dict.ofList (layout.others v) }

/-- Writes a report: the identifier, then the other members over it. -/
def encode (r : Report) : Json :=
  .obj (Keyed.insertAll r.fields.entries [("id", .str r.id)])

instance : Entity Report where
  kind := .report
  empty := {}
  id := Report.id
  setId r id := { r with id := id }
  decode := decode
  encode := encode

/-- Assigns one of the other members. -/
def setField (r : Report) (field : String) (value : Json) : Report :=
  { r with fields := r.fields.insert field value }

end Report

end AlertDesk
