import RouterConf.Proofs.Json.RoundTrip
import RouterConf.Proofs.Time.RoundTrip
import RouterConf.Record.Store

/-!
# Written records are read back

A record is built of texts and objects alone, so it is read back from its file if the time in it is
one. What else the file system does to records is a matter of their paths.

Main statement: `ApplyRecord.ofText?_text`.
-/

namespace RouterConf.ApplyRecord

/-- A record holds no numbers. -/
theorem isPlain_json (r : ApplyRecord) : r.json.isPlain = true := by
  simp [json, SectionId.json, InstancePaths.json, Json.ofFields, Json.ofText, Json.isPlain,
    Json.arePlainFields]

/-- A record is read back from its JSON. -/
theorem ofJson?_json {r : ApplyRecord} (h : r.appliedAt.isValid = true) :
    ofJson? r.json = some r := by
  -- The members are found under the keys that they are written with.
  have members : r.json.members ["section", "applied_at", "paths"] =
      some [r.section_.json, .ofText r.appliedAt.text, r.paths.json] := by
    simp [json, Json.members, Json.ofFields, Json.field?, Json.ofText]
  simp [ofJson?, members, Json.ofText, Json.text?, Timestamp.ofText?_text h]

/-- **A record is read back** from what is written for it. -/
theorem ofText?_text {r : ApplyRecord} (h : r.appliedAt.isValid = true) :
    ofText? r.text = some r := by
  rw [ofText?, text, Json.ofString?_text r.isPlain_json, Option.bind_some, ofJson?_json h]

end RouterConf.ApplyRecord
