import ElementMetadata.Command.Run
import ElementMetadata.Proofs.Json.Layout
import ElementMetadata.Proofs.Metadata.Injective
import ElementMetadata.Proofs.Metadata.PagesDocument

/-!
Metadata as they are printed. Both forms are read back as the value that is printed: nothing in it is
a float but what a job's headers hold, and these stand in the document, which was not too deep to be
read, at least as deep as they do in the metadata.
-/
namespace ElementMetadata
open Document WellFormed

namespace Json
variable {v : Json}

theorem parse_printed (hv : v.FloatFree) (hd : v.Fits maxDepth) (pretty : Bool) :
    parse (v.printed pretty) = .ok v.canonical := by
  have hprinted (L : Layout) : parse (String.ofList (L.value 0 v) ++ "\n") = .ok v.canonical := by
    have h := L.parse_value hv hd (isBlank_newLine 0)
    rwa [String.ofList_append] at h
  cases pretty with
  | true => exact hprinted .spread
  | false => exact hprinted .oneLine

theorem member?_canonical {ms : Members} (hn : (ms.map Prod.fst).Nodup)
    (hc : ∀ m ∈ ms, m.2.Canonical) (key : String) :
    (Json.object ms).canonical.member? key = (Json.object ms).member? key := by
  have hms : canonicalMembers ms = ms.map id := by
    rw [canonicalMembers_eq_map]
    exact List.map_inj_left.2 fun m hm => Prod.ext rfl (hc m hm)
  rw [canonical, hms, List.map_id]
  exact lookup_sortMembers hn

end Json

namespace Document
variable {α : Type} [Codec α] {doc v : Json} {key : String}

/-- The record is read from a value that the document holds, if there is a record. -/
def ReadWithin (doc : Json) (o : Option α) : Prop :=
  ∀ r ∈ o, ∃ v, doc.Holds v ∧ Codec.read v = .ok r

theorem mem_parts_of_at? (h : at? doc key = some v) : v ∈ doc.parts :=
  Json.mem_parts_of_member? (Option.filter_eq_some_iff.1 h).1

theorem readWithin_of_readsIfAny {o : Option α} (h : ReadsIfAny (at? doc key) o) :
    ReadWithin doc o := by
  rintro r rfl
  generalize hv : at? doc key = found at h
  cases h with
  | some hread => exact ⟨_, .part (mem_parts_of_at? hv), hread⟩

end Document

theorem Job.mem_parts_of_read {v : Json} {job : Job} (h : Codec.read v = .ok job) {headers : Members}
    (hheaders : headers ∈ job.customHeaders) : .object headers ∈ v.parts := by
  obtain ⟨n, hn, rfl⟩ := Codec.read_eq_ok_iff.1 h
  have hm : n.members? "customHeaders" = some headers := hheaders
  exact Form.mem_parts_of_ofValue_record Plain.keeps hn (Json.members?_eq_some_iff.1 hm)

namespace Metadata
variable {doc v : Json}

theorem mem_parts_of_rawItems? {x : Json} (h : SearchPage.rawItems? v = some x) : x ∈ v.parts := by
  cases v with
  | object ms => exact Json.mem_parts_of_member? h
  | array vs => exact List.mem_of_head? h
  | _ => cases h

theorem holds_of_mem_rawItems {page : String} (h : v ∈ rawItems doc page) : doc.Holds v := by
  rw [rawItems] at h
  split at h
  · next vs hvs =>
    obtain ⟨p, hp, hitems⟩ := Option.bind_eq_some_iff.1 hvs
    have hpage : doc.Holds p := .part (mem_parts_of_at? hp)
    have harray : p.Holds (.array vs) := .part (mem_parts_of_rawItems? hitems)
    exact (hpage.trans harray).trans (.part h)
  · cases h

theorem readWithin_of_pageReads {α : Type} [Codec α] {page : String} {found : SearchPage α}
    {o : Option α} (h : PageReads (at? doc page) found) (ho : ∀ r ∈ o, r ∈ found.items) :
    ReadWithin doc o := by
  intro r hr
  obtain ⟨v, hv, hread⟩ := (readAll_rawItems h).exists_read (ho r hr)
  exact ⟨v, holds_of_mem_rawItems hv, hread⟩

theorem readWithin_details {o : Option UserTask} (h : ReadWithin doc o) :
    ReadWithin doc (o.map UserTask.details) := by
  intro details hdetails
  obtain ⟨task, htask, rfl⟩ := Option.map_eq_some_iff.1 hdetails
  obtain ⟨v, hv, hread⟩ := h task htask
  exact ⟨v, hv, TaskDetails.read_of_read hread⟩

theorem exists_sources {m : Logged Event Metadata}
    (h : ofSourcesDocument doc = .ok m ∨ ofPagesDocument doc = .ok m) :
    ∃ s : Sources, m.value = s.merge (s.userTask.getD {}) ∧ ReadWithin doc s.job ∧
      ReadWithin doc s.userTask := by
  obtain h | h := h
  · obtain ⟨s, hs, rfl⟩ := map_eq_ok_iff.1 h
    obtain ⟨-, -, hjob, -, -, htask⟩ := Sources.ofJson_eq_ok_iff.1 hs
    exact ⟨s, rfl, readWithin_of_readsIfAny hjob, readWithin_of_readsIfAny htask⟩
  · obtain ⟨pages, hpages, rfl⟩ := map_eq_ok_iff.1 h
    obtain ⟨-, -, hjobs, -, -, htasks⟩ := LinkedPages.ofJson_eq_ok_iff.1 hpages
    refine ⟨pages.resolve.value, rfl, ?_, ?_⟩
    · rw [LinkedPages.resolve_value]
      exact readWithin_of_pageReads hjobs fun _ hjob => List.mem_of_find?_eq_some hjob
    · rw [LinkedPages.resolve_value]
      refine readWithin_details (readWithin_of_pageReads htasks fun task htask => ?_)
      split at htask
      · exact List.mem_of_find?_eq_some htask
      · cases htask

theorem holds_jobCustomHeaders {m : Logged Event Metadata}
    (h : ofSourcesDocument doc = .ok m ∨ ofPagesDocument doc = .ok m) {headers : Members}
    (hheaders : headers ∈ m.value.jobCustomHeaders) : doc.Holds (.object headers) := by
  obtain ⟨s, hs, hjob, -⟩ := exists_sources h
  rw [hs] at hheaders
  obtain ⟨job, hj, hh⟩ := Option.bind_eq_some_iff.1 hheaders
  obtain ⟨v, hv, hread⟩ := hjob job hj
  exact hv.trans (.part (Job.mem_parts_of_read hread hh))

/-- The headers of a task have ascending keys, since they are read from a canonical value. -/
theorem ascending_customHeaders {m : Logged Event Metadata} (hdoc : doc.Canonical)
    (h : ofSourcesDocument doc = .ok m ∨ ofPagesDocument doc = .ok m)
    {headers : List (String × String)} (hheaders : headers ∈ m.value.customHeaders) :
    Json.Ascending headers := by
  obtain ⟨s, hs, -, htask⟩ := exists_sources h
  rw [hs] at hheaders
  change headers ∈ (s.userTask.getD {}).customHeaders at hheaders
  cases ht : s.userTask with
  | none =>
    rw [ht] at hheaders
    cases hheaders
  | some task =>
    rw [ht] at hheaders
    obtain ⟨v, hv, hread⟩ := htask task ht
    exact Plain.ordered_of_read (hdoc.of_holds hv) hread headers hheaders

def written (m : Metadata) : Members :=
  columns.filterMap fun column => (column.write m).map (column.key, ·)

theorem nodup_written (m : Metadata) : (m.written.map Prod.fst).Nodup :=
  Json.nodup_table Column.key (Column.write · m) nodup_columns

theorem forall_mem_written {P : Json → Prop} (m : Metadata) (hnull : P .null)
    (hbool : ∀ b, P (.bool b)) (hinteger : ∀ n, P (.integer n)) (hstring : ∀ s, P (.string s))
    (htexts : ∀ texts, P (.ofTexts texts)) (hlabels : ∀ ls ∈ m.customHeaders, P (.ofLabels ls))
    (hheaders : ∀ hs ∈ m.jobCustomHeaders, P (.object hs)) : ∀ n ∈ m.written, P n.2 := by
  have hopt {α : Type} {write : α → Json} {o : Option α} (h : ∀ a ∈ o, P (write a)) :
      P (.ofOption (o.map write)) := by
    cases o with
    | none => exact hnull
    | some a => exact h a rfl
  have htext (o : Option String) : P (.ofOption (o.map .string)) := hopt fun s _ => hstring s
  have hretries : P (.ofOption (m.jobRetries.map fun n => .integer (.ofInt64 n))) :=
    hopt fun n _ => hinteger _
  have hwrite : ∀ column ∈ columns, ∀ x, column.write m = some x → P x := by
    simp only [columns, List.forall_mem_cons, Column.nullable_write, Column.always_write,
      Column.omitted_write, Option.some.injEq, forall_eq', Option.map_eq_some_iff,
      forall_exists_index, and_imp, forall_apply_eq_imp_iff₂, htext, hretries, hopt hheaders, hbool,
      hinteger, hstring, htexts, Wire.toJson, implies_true, true_and]
    exact ⟨hlabels, List.forall_mem_nil _⟩
  intro n hn
  obtain ⟨column, hcolumn, hwritten⟩ := List.mem_filterMap.1 hn
  obtain ⟨x, hx, rfl⟩ := Option.map_eq_some_iff.1 hwritten
  exact hwrite column hcolumn x hx

theorem floatFree_toJson {m : Metadata}
    (h : ∀ hs ∈ m.jobCustomHeaders, (Json.object hs).FloatFree) : m.toJson.FloatFree := by
  refine .object (forall_mem_written m .null .bool .integer .string ?_ ?_ h)
  · exact fun texts => .array (List.forall_mem_map.2 fun s _ => .string s)
  · exact fun ls _ => .object (List.forall_mem_map.2 fun l _ => .string l.2)

theorem fits_toJson {m : Metadata} {depth : Nat}
    (h : ∀ hs ∈ m.jobCustomHeaders, (Json.object hs).Fits (depth + 1)) :
    m.toJson.Fits (depth + 2) := by
  have hstring (s : String) : (Json.string s).Fits depth := by cases depth <;> trivial
  exact forall_mem_written m trivial (fun _ => trivial) (fun _ => trivial) (fun _ => trivial)
    (fun texts => List.forall_mem_map.2 fun s _ => hstring s)
    (fun ls _ => List.forall_mem_map.2 fun l _ => hstring l.2) h

theorem member?_canonical_toJson {m : Metadata} (hlabels : ∀ ls ∈ m.customHeaders, Json.Ascending ls)
    (hheaders : ∀ hs ∈ m.jobCustomHeaders, (Json.object hs).Canonical) (key : String) :
    m.toJson.canonical.member? key = m.toJson.member? key := by
  refine Json.member?_canonical (nodup_written m) ?_ key
  exact forall_mem_written m rfl (fun _ => rfl) (fun _ => rfl) (fun _ => rfl)
    Json.canonical_ofTexts (fun ls hls => Json.canonical_ofLabels_iff.2 (hlabels ls hls)) hheaders

/-- What is printed of metadata, spread over lines or not, is read as the value that they are in JSON,
and what is not spread is one line. -/
theorem printed_metadata_is_read_back {text : String} {doc : Json} {m : Logged Event Metadata}
    (htext : Json.parse text = .ok doc)
    (hm : ofSourcesDocument doc = .ok m ∨ ofPagesDocument doc = .ok m)
    (hheaders : ∀ hs ∈ m.value.jobCustomHeaders, (Json.object hs).FloatFree) :
    (∀ pretty, Json.parse (m.value.toJson.printed pretty) = .ok m.value.toJson.canonical) ∧
      (∀ key, m.value.toJson.canonical.member? key = m.value.toJson.member? key) ∧
      ∃ line, m.value.toJson.printed false = line ++ "\n" ∧
        ∀ c ∈ line.toList, Json.isControl c = false := by
  have hcanonical : doc.Canonical := Json.canonical_of_parse htext
  have hfloat := floatFree_toJson hheaders
  -- Headers stand one level deep in the metadata, and in the document no less deep.
  have hfits : m.value.toJson.Fits Json.maxDepth :=
    fits_toJson fun hs hhs => (Json.fits_of_parse htext).of_holds (holds_jobCustomHeaders hm hhs)
  refine ⟨fun pretty => Json.parse_printed hfloat hfits pretty, ?_, m.value.toJson.compact, rfl, ?_⟩
  · exact member?_canonical_toJson (fun ls hls => ascending_customHeaders hcanonical hm hls)
      fun hs hhs => hcanonical.of_holds (holds_jobCustomHeaders hm hhs)
  · exact Json.isControl_of_mem_compact hfloat

def mailHeaders : Members :=
  [ ("lists", .array [.array [], .object [], .integer (.ofInt64 (-3))]), ("note", .string "a\nb") ]

def mailDocument : Json := .object
  [ ("elementInstance", .object
      [ ("elementId", .string "mail"), ("elementInstanceKey", .string "7"),
        ("state", .string "ACTIVE"), ("type", .string "SERVICE_TASK") ]),
    ("job", .object [ ("customHeaders", .object mailHeaders) ]) ]

theorem floatFree_mailHeaders : (Json.object mailHeaders).FloatFree := by
  have hlists : (Json.array [.array [], .object [], .integer (.ofInt64 (-3))]).FloatFree := by
    refine .array ?_
    simp only [List.forall_mem_cons]
    exact ⟨.array (List.forall_mem_nil _), .object (List.forall_mem_nil _), .integer _,
      List.forall_mem_nil _⟩
  exact .object (List.forall_mem_cons.2 ⟨hlists, List.forall_mem_singleton.2 (.string _)⟩)

theorem nested_headers_are_read_back : ∃ m : Logged Event Metadata,
    Json.parse (mailDocument.printed true) = .ok mailDocument ∧
    ofSourcesDocument mailDocument = .ok m ∧
    (∀ pretty, Json.parse (m.value.toJson.printed pretty) = .ok m.value.toJson.canonical) ∧
    m.value.toJson.canonical.member? "jobCustomHeaders" = some (.object mailHeaders) := by
  have hfloat : mailDocument.FloatFree := by
    refine .object (List.forall_mem_cons.2 ⟨.object ?_, List.forall_mem_singleton.2
      (.object (List.forall_mem_singleton.2 floatFree_mailHeaders))⟩)
    simp only [List.forall_mem_cons]
    exact ⟨.string _, .string _, .string _, .string _, List.forall_mem_nil _⟩
  have hfits : mailDocument.Fits Json.maxDepth := by
    simp [mailDocument, Json.maxDepth, Json.Fits, mailHeaders]
  have htext := Json.parse_printed hfloat hfits true
  have hcanonical : mailDocument.canonical = mailDocument := rfl
  rw [hcanonical] at htext
  obtain ⟨hprinted, hmember, -⟩ := printed_metadata_is_read_back htext (.inl rfl) fun hs hhs => by
    cases hhs
    exact floatFree_mailHeaders
  exact ⟨_, htext, rfl, hprinted, hmember "jobCustomHeaders"⟩

end Metadata
end ElementMetadata
