import StoreGraph.Proofs.Json.Documents
import StoreGraph.Resolver

/-! # Saved records

A record is decoded from the bytes that it is saved as. What is set in a record is written as a
member of its own, and what is not set is left out and read as the value of nothing at all, so no
two records are saved as the same bytes.
-/

namespace StoreGraph

namespace Record

open Json

/-- The record's number of stores that have to accept a write is a machine word. -/
def Fits : Record → Prop
  | redundant record => ∀ num, record.writeAtLeast = some num → num < UInt64.size
  | _ => True

/-! ## The document of a record -/

section Written

variable {depth : Nat}

theorem exact_texts (ids : List String) : Exact (depth + 1) (idsToJson ids) := by
  refine .array fun item listed => ?_
  obtain ⟨id, -, rfl⟩ := List.mem_map.mp listed
  exact .text id

theorem exact_optionalMember {name : String} {value : Option Json}
    (exact : ∀ document, value = some document → Exact depth document) :
    ∀ member ∈ optionalMember name value, Exact depth member.2 := by
  cases value with
  | none => exact fun _ listed => nomatch listed
  | some document =>
    intro member listed
    obtain rfl := List.mem_singleton.mp listed
    exact exact document rfl

theorem exact_toJson {record : Record} (fits : record.Fits) : Exact (depth + 3) record.toJson := by
  cases record with
  | simple url =>
    refine .object ?_
    simp only [List.forall_mem_cons]
    exact ⟨.text _, .text _, fun _ listed => nomatch listed⟩
  | sharded shards =>
    refine .object ?_
    simp only [List.forall_mem_cons]
    exact ⟨.text _, exact_texts shards, fun _ listed => nomatch listed⟩
  | redundant r =>
    have reading : Exact (depth + 2)
        (.object (if r.readFirst then [("first", .object [])] else [])) := by
      refine .object fun member listed => ?_
      split at listed
      · obtain rfl := List.mem_singleton.mp listed
        exact .object fun _ listed => nomatch listed
      · cases listed
    have writing : Exact (depth + 2) (.object (optionalMember "atleast"
        (r.writeAtLeast.map fun num => .object [("num", .ofNat num)]))) := by
      refine .object (exact_optionalMember fun document set => ?_)
      obtain ⟨num, atLeast, rfl⟩ := Option.map_eq_some_iff.mp set
      refine .object fun member listed => ?_
      obtain rfl := List.mem_singleton.mp listed
      exact .nat (fits num atLeast)
    have dedup : ∀ member ∈ optionalMember "dedup" (r.dedup.map Json.text),
        Exact (depth + 2) member.2 := by
      refine exact_optionalMember fun document set => ?_
      obtain ⟨id, -, rfl⟩ := Option.map_eq_some_iff.mp set
      exact .text id
    refine .object ?_
    simp only [List.forall_mem_append, List.forall_mem_cons]
    exact ⟨⟨⟨.text _, reading, writing, fun _ listed => nomatch listed⟩, dedup⟩,
      exact_texts r.storages, fun _ listed => nomatch listed⟩

theorem parse_toBytes {record : Record} (fits : record.Fits) :
    parse record.toBytes = .ok record.toJson := by
  have exact : Exact maxDepth record.toJson := exact_toJson fits
  cases record with
  | simple url => exact parse_toBytes_object exact
  | sharded shards => exact parse_toBytes_object exact
  | redundant r => exact parse_toBytes_object exact

end Written

/-! ## The record of a document -/

section Read

theorem texts?_idsToJson (ids : List String) : texts? (idsToJson ids) = some ids := by
  have each : ∀ ids : List String, (ids.map Json.text).mapM Json.text? = some ids := by
    intro ids
    induction ids with
    | nil => rfl
    | cons id ids ih => simp only [List.map_cons, List.mapM_cons, Json.text?, ih]; rfl
  exact each ids

theorem numOfJson?_ofNat {num : Nat} (fits : num < UInt64.size) :
    numOfJson? (.object [("num", .ofNat num)]) = some num := by
  have named : fields? ["num"] (.object [("num", .ofNat num)]) = some [some (.ofNat num)] := rfl
  have whole : (ofNat num).nat? = some num := rfl
  simp only [numOfJson?, named, bind, Option.bind, whole, if_pos fits]

theorem readOfJson?_written (readFirst : Bool) :
    readOfJson? (some (.object (if readFirst then [("first", .object [])] else []))) =
      some readFirst := by
  cases readFirst <;> rfl

theorem writeOfJson?_written {atLeast : Option Nat}
    (fits : ∀ num, atLeast = some num → num < UInt64.size) :
    writeOfJson? (some (.object (optionalMember "atleast"
      (atLeast.map fun num => .object [("num", .ofNat num)])))) = some atLeast := by
  cases atLeast with
  | none => rfl
  | some num =>
    have named : fields? ["atleast"] (.object [("atleast", .object [("num", .ofNat num)])]) =
        some [some (.object [("num", .ofNat num)])] := rfl
    simp only [writeOfJson?, optionalMember, Option.map_some, named, bind, Option.bind, optional?,
      numOfJson?_ofNat (fits num rfl)]

theorem kind_toJson (record : Record) :
    record.toJson.member? "kind" = some (.text record.kind) := by
  cases record with
  | simple url => rfl
  | sharded shards => rfl
  | redundant r =>
    obtain ⟨readFirst, atLeast, dedup, storages⟩ := r
    cases dedup with
    | none => rfl
    | some id => rfl

theorem ofKind?_sharded {members : List (String × Json)} {shards : List String}
    (listed : ids? (lookup? "shards" members) = some shards) :
    ofKind? "sharded" (.object members) = some (sharded shards) := by
  simp [ofKind?, fields?, listed]

theorem ofKind?_redundant {members : List (String × Json)} {r : RedundantRecord}
    (read : readOfJson? (lookup? "read" members) = some r.readFirst)
    (write : writeOfJson? (lookup? "write" members) = some r.writeAtLeast)
    (dedup : optional? Json.text? (lookup? "dedup" members) = some r.dedup)
    (storages : ids? (lookup? "storages" members) = some r.storages) :
    ofKind? "redundant" (.object members) = some (redundant r) := by
  simp [ofKind?, fields?, read, write, dedup, storages]

theorem ofJson?_toJson {record : Record} (fits : record.Fits) :
    ofJson? record.toJson = some record := by
  cases record with
  | simple url => rfl
  | sharded shards => exact ofKind?_sharded (texts?_idsToJson shards)
  | redundant r =>
    obtain ⟨readFirst, atLeast, dedup, storages⟩ := r
    have read := readOfJson?_written readFirst
    have write := writeOfJson?_written fits
    cases dedup with
    | none => exact ofKind?_redundant read write rfl (texts?_idsToJson storages)
    | some id => exact ofKind?_redundant read write rfl (texts?_idsToJson storages)

end Read

theorem ofJson_toJson {record : Record} (fits : record.Fits) :
    ofJson record.toJson = .ok record := by
  rw [ofJson, ofJson?_toJson fits]

theorem kind_mem_kinds (record : Record) : kinds.contains record.kind = true := by
  cases record <;> rfl

end Record

namespace Resolver

theorem decode_toBytes {r : Resolver} (default : r.decoder = decodeJson) {record : Record}
    (fits : record.Fits) : r.decode record.toBytes = .ok record := by
  have document : r.decoder record.toBytes = .ok record.toJson := by
    rw [default, decodeJson, Record.parse_toBytes fits]
  have kind : ((record.toJson.member? "kind").bind Json.text?).getD "" = record.kind := by
    rw [Record.kind_toJson]
    rfl
  simp only [decode, document, bind, Except.bind, kind, Record.kind_mem_kinds, if_true,
    Record.ofJson_toJson fits]

/-- A resolver that reads JSON text decodes every record from the bytes that it is saved as, and no
    other record is saved as these bytes. -/
theorem saved_records_decode {r : Resolver} (default : r.decoder = decodeJson) {record : Record}
    (fits : record.Fits) :
    r.decode record.toBytes = .ok record ∧
      ∀ other : Record, other.Fits → other.toBytes = record.toBytes → other = record := by
  refine ⟨decode_toBytes default fits, fun other otherFits same => ?_⟩
  have decoded := decode_toBytes default otherFits
  rw [same, decode_toBytes default fits] at decoded
  exact (Except.ok.inj decoded).symm

/-- Whatever is set, the greatest number of stores that have to accept a write, and texts of every
    kind. -/
def fullRecord : Record :=
  .redundant {
    readFirst := true
    writeAtLeast := some (UInt64.size - 1)
    dedup := some ""
    storages := ["", "a\"b\\c", "\x00\x1f\n\x7f", "héllo", "😀"] }

theorem saved_records_decode_full :
    fullRecord.Fits ∧
      ({ registry := .empty } : Resolver).decode fullRecord.toBytes = .ok fullRecord := by
  have fits : fullRecord.Fits := by
    rintro num ⟨⟩
    decide
  exact ⟨fits, (saved_records_decode rfl fits).1⟩

end Resolver

end StoreGraph
