import Mathlib.Data.List.TakeWhile
import RecordQuery.Proofs.Endpoint.Listing
import RecordQuery.Proofs.Numeric.Digits
import RecordQuery.Proofs.Store.Calls

/-!
# Requests to a table

What a request to an endpoint over a table can come to. Reads and refusals leave the table as it
is, every other request makes exactly one change to it, and no request meets a fault of the
storage.
-/

namespace RecordQuery

inductive Request where
  | list (base : String) (query : QueryString)
  | get (id : Option String) (base : String) (query : QueryString)
  | retrieve (raw : String)
  | create (payload : Json)
  | update (raw : String) (payload : Json) (partially : Bool)
  | destroy (raw : String)

def Request.isRead : Request → Bool
  | list .. | get .. | retrieve _ => true
  | create _ | update .. | destroy _ => false

def Response.IsConstraintViolation (response : Response) : Prop :=
  response.status = .badRequest ∧
    response.field? "error" = some (.string "Database constraint violation")

theorem FieldErrors.get?_toJson (errors : FieldErrors) (field : String) :
    errors.toJson.get? field = (errors.get? field).map .strings := by
  obtain ⟨entries⟩ := errors
  change List.lookup field (entries.map fun entry => (entry.1, Json.strings entry.2)) =
    (entries.lookup field).map .strings
  induction entries with
  | nil => rfl
  | cons entry rest ih =>
    rw [List.map_cons, List.lookup_cons, List.lookup_cons, ih]
    cases field == entry.1 <;> rfl

namespace Endpoint

section Store

variable {σ ι : Type} {endpoint : Endpoint σ ι}

def handle [RegexLibrary] (endpoint : Endpoint σ ι) : Request → σ → Handled σ
  | .list base query => endpoint.list base query
  | .get id base query => endpoint.get id base query
  | .retrieve raw => endpoint.retrieve raw
  | .create payload => endpoint.create payload
  | .update raw payload partially =>
    if partially then endpoint.partialUpdate raw payload else endpoint.update raw payload
  | .destroy raw => endpoint.destroy raw

theorem handle_update [RegexLibrary] (raw : String) (payload : Json) (partially : Bool) :
    endpoint.handle (.update raw payload partially) =
      endpoint.updateWith raw payload [] partially := by
  cases partially <;> rfl

theorem failureResponse_of_not_fault {failure : StoreError} (h : failure.isFault = false)
    (operation : Operation) :
    (failureResponse operation failure).status = .badRequest ∨
      (failureResponse operation failure).status = .notFound := by
  cases failure with
  | notFound => exact Or.inr rfl
  | validation errors => exact Or.inl rfl
  | constraint detail => exact Or.inl rfl
  | backend message => exact absurd h (by simp [StoreError.isFault])

theorem validated_of_ok {payload clean : Json} {partially : Bool}
    (h : endpoint.validate payload partially = .ok clean) :
    endpoint.validated payload partially [] = .ok clean := by
  unfold validated
  rw [h]
  cases clean <;> rfl

theorem validated_of_error {payload : Json} {partially : Bool} {errors : FieldErrors}
    (h : endpoint.validate payload partially = .error errors) :
    endpoint.validated payload partially [] = .error (.validation errors) := by
  unfold validated
  rw [h]

theorem create_of_refused {payload : Json} {errors : FieldErrors}
    (h : endpoint.validate payload false = .error errors) (state : σ) :
    (endpoint.create payload state).response = .validation errors ∧
      (endpoint.create payload state).state = state := by
  simp only [create, createWith, validated_of_error h]
  exact ⟨rfl, rfl⟩

theorem withId_of_nameless {raw : String} (h : endpoint.store.parseId? raw = none)
    (operation : Operation) (answer : ι → σ → Handled σ) (state : σ) :
    (endpoint.withId operation raw answer state).response = .notFound ∧
      (endpoint.withId operation raw answer state).state = state := by
  have hread : ∃ event, endpoint.readId operation raw = .error event := by
    unfold readId
    split
    · exact ⟨_, rfl⟩
    · rw [h]
      exact ⟨_, rfl⟩
  obtain ⟨event, hread⟩ := hread
  rw [withId, hread]
  exact ⟨rfl, rfl⟩

end Store

section Table

variable {R : Type} [Storable R] {endpoint : Endpoint (Table R) UInt64}

/-! ## Answers to writes -/

/-- The answer to a write that came to this. -/
def written (operation : Operation) (success : Json → Response) :
    Except StoreError R → Response
  | .ok record => success (Storable.encode record)
  | .error failure => failureResponse operation failure

theorem isConstraintViolation_failureResponse_iff (operation : Operation) (failure : StoreError) :
    (failureResponse operation failure).IsConstraintViolation ↔
      ∃ detail, failure = .constraint detail := by
  cases failure with
  | constraint detail => exact ⟨fun _ => ⟨detail, rfl⟩, fun _ => ⟨rfl, rfl⟩⟩
  | validation errors =>
    refine ⟨fun h => ?_, fun ⟨detail, h⟩ => absurd h (by simp)⟩
    have hlist : (errors.toJson.get? "error") = (errors.get? "error").map .strings :=
      FieldErrors.get?_toJson errors "error"
    have herror : errors.toJson.get? "error" = some (.string "Database constraint violation") :=
      h.2
    rw [hlist] at herror
    obtain ⟨messages, _, heq⟩ := Option.map_eq_some_iff.mp herror
    exact absurd heq (by simp [Json.strings])
  | _ =>
    refine ⟨fun h => ?_, fun ⟨detail, h⟩ => absurd h (by simp)⟩
    exact nomatch h.1

theorem isConstraintViolation_written_iff {operation : Operation} {success : Json → Response}
    (hsuccess : ∀ body, (success body).status ≠ .badRequest) {outcome : Except StoreError R} :
    (written operation success outcome).IsConstraintViolation ↔
      ∃ detail, outcome = .error (.constraint detail) := by
  cases outcome with
  | ok record =>
    exact ⟨fun h => absurd h.1 (hsuccess _), fun ⟨detail, h⟩ => absurd h (by simp)⟩
  | error failure =>
    refine (isConstraintViolation_failureResponse_iff operation failure).trans ?_
    exact exists_congr fun detail => ⟨congrArg _, Except.error.inj⟩

theorem exists_ok_of_written {operation : Operation} {success : Json → Response}
    {outcome : Except StoreError R} (h : (written operation success outcome).status.code < 400) :
    ∃ record, outcome = .ok record := by
  cases outcome with
  | ok record => exact ⟨record, rfl⟩
  | error failure =>
    have hcode : 400 ≤ (failureResponse operation failure).status.code := by
      cases failure <;> exact Nat.le_of_ble_eq_true rfl
    exact absurd h (Nat.not_lt.mpr hcode)

/-! ## What a request can come to -/

inductive Effect (endpoint : Endpoint (Table R) UInt64) (table : Table R) :
    Request → Response → Table R → Prop where
  | answered {request : Request} {response : Response} (hread : request.isRead = true)
      (hstatus : response.status = .ok) : Effect endpoint table request response table
  | refused {request : Request} {response : Response}
      (hstatus : response.status = .badRequest ∨ response.status = .notFound) :
      Effect endpoint table request response table
  | created {payload : Json} {entries : Entries} {record : R}
      (hclean : endpoint.validate payload false = .ok (.object entries))
      (hmade : table.materialize table.nextId entries = .ok record) :
      Effect endpoint table (.create payload) (.created (Storable.encode record)) { table with
        rows := Rows.insert table.nextId record table.rows
        nextId := table.nextId + 1 }
  | updated {raw : String} {payload : Json} {partially : Bool} {id : UInt64} {current record : R}
      {entries changes : Entries} (hid : endpoint.store.parseId? raw = some id)
      (hfind : table.find id = some current)
      (hclean : endpoint.validate payload partially = .ok (.object changes))
      (hobject : Storable.encode current = .object entries)
      (hmade : table.materialize id (Entries.overlay entries changes) = .ok record) :
      Effect endpoint table (.update raw payload partially) (.ok (Storable.encode record))
        { table with rows := Rows.insert id record table.rows }
  | destroyed {raw : String} {id : UInt64} {current : R}
      (hid : endpoint.store.parseId? raw = some id) (hfind : table.find id = some current) :
      Effect endpoint table (.destroy raw) .noContent
        { table with rows := Rows.erase id table.rows }

theorem Effect.of_refusal {request : Request} {handled : Handled (Table R)}
    (h : (handled.response = .notFound ∨ ∃ errors, handled.response = .validation errors) ∧
      handled.state = table) : Effect endpoint table request handled.response handled.state := by
  obtain ⟨hresponse, hstate⟩ := h
  rw [hstate]
  apply Effect.refused
  rcases hresponse with hresponse | ⟨errors, hresponse⟩
  · exact Or.inr (congrArg Response.status hresponse)
  · exact Or.inl (congrArg Response.status hresponse)

variable (hstore : endpoint.store = Table.store R)
include hstore

/-! ## The record that a request names -/

theorem parseId?_natText (id : UInt64) :
    endpoint.store.parseId? (Digits.natText id.toNat) = some id := by
  rw [hstore]
  exact Digits.readUInt64?_natText id

variable {raw : String} {id : UInt64}

theorem isBlankText_of_parseId? (h : endpoint.store.parseId? raw = some id) :
    Text.isBlankText raw = false := by
  cases hblank : Text.isBlankText raw with
  | false => rfl
  | true =>
    have hnil : raw.toList.dropWhile Text.isBlank = [] :=
      List.dropWhile_eq_nil_iff.mpr (List.all_eq_true.mp hblank)
    have hread : Digits.readUInt64? (Text.trimChars raw.toList) = some id := by
      rw [hstore] at h
      exact h
    rw [Text.trimChars, hnil] at hread
    change none = some id at hread
    exact absurd hread (by simp)

theorem withId_of_named (h : endpoint.store.parseId? raw = some id) (operation : Operation)
    (answer : UInt64 → Table R → Handled (Table R)) (table : Table R) :
    endpoint.withId operation raw answer table = answer id table := by
  have hread : endpoint.readId operation raw = .ok id := by
    simp only [readId, isBlankText_of_parseId? hstore h, h, Bool.false_eq_true, if_false]
  rw [withId, hread]

theorem find_store (id : UInt64) (table : Table R) :
    endpoint.store.find id table = (.ok ((table.find id).map Storable.encode), table) := by
  rw [hstore]
  rfl

variable {table : Table R} {current : R}

theorem resolve_of_find (h : table.find id = some current) :
    endpoint.store.resolve id table = (.ok (Storable.encode current), table) := by
  rw [Store.resolve, find_store hstore, h]
  rfl

theorem resolve_of_missing (h : table.find id = none) :
    endpoint.store.resolve id table = (.error .notFound, table) := by
  rw [Store.resolve, find_store hstore, h]
  rfl

/-! ## Reads -/

theorem list_leaves [RegexLibrary] (base : String) (query : QueryString) (table : Table R) :
    (endpoint.list base query table).response.status = .ok ∧
      (endpoint.list base query table).state = table := by
  have hcount : ∃ total, (if (endpoint.selection query).isSatisfiable then
      endpoint.store.count (endpoint.selection query) table else (.ok 0, table)) =
        (.ok total, table) := by
    rw [hstore]
    split <;> exact ⟨_, rfl⟩
  have hfetch (wanted : Prop) [Decidable wanted] (window : Window) :
      ∃ records, (if wanted then
        endpoint.store.fetch (endpoint.selection query) (endpoint.sortKeys query) window table
        else (.ok [], table)) = (.ok records, table) := by
    rw [hstore]
    split <;> exact ⟨_, rfl⟩
  have hanswer : ∃ response, response.status = .ok ∧
      (if endpoint.settings.paginate then endpoint.listPage base query table
        else endpoint.listAll query table) = (.ok response, table) := by
    split
    · obtain ⟨total, htotal⟩ := hcount
      obtain ⟨records, hrecords⟩ :=
        hfetch ((Page.ofQuery query endpoint.settings.page).offset < total) _
      exact ⟨_, rfl, listPage_of_ok htotal hrecords⟩
    · obtain ⟨records, hrecords⟩ := hfetch ((endpoint.selection query).isSatisfiable = true) _
      exact ⟨_, rfl, listAll_of_ok hrecords⟩
  obtain ⟨response, hstatus, hanswer⟩ := hanswer
  obtain ⟨hresponse, hstate⟩ := list_of_ok hanswer
  exact ⟨hresponse ▸ hstatus, hstate⟩

theorem retrieve_of_find (hid : endpoint.store.parseId? raw = some id)
    (hfind : table.find id = some current) :
    (endpoint.retrieve raw table).response = .ok (Storable.encode current) ∧
      (endpoint.retrieve raw table).state = table := by
  rw [retrieve, withId_of_named hstore hid, resolve_of_find hstore hfind]
  exact ⟨rfl, rfl⟩

theorem retrieve_of_missing (hid : endpoint.store.parseId? raw = some id)
    (hfind : table.find id = none) :
    (endpoint.retrieve raw table).response = .notFound ∧
      (endpoint.retrieve raw table).state = table := by
  rw [retrieve, withId_of_named hstore hid, resolve_of_missing hstore hfind]
  exact ⟨rfl, rfl⟩

theorem retrieve_leaves (raw : String) (table : Table R) :
    ((endpoint.retrieve raw table).response.status = .ok ∨
      (endpoint.retrieve raw table).response.status = .notFound) ∧
      (endpoint.retrieve raw table).state = table := by
  cases hid : endpoint.store.parseId? raw with
  | none =>
    obtain ⟨hresponse, hstate⟩ := withId_of_nameless hid .retrieve _ table
    exact ⟨Or.inr (congrArg Response.status hresponse), hstate⟩
  | some id =>
    cases hfind : table.find id with
    | none =>
      obtain ⟨hresponse, hstate⟩ := retrieve_of_missing hstore hid hfind
      exact ⟨Or.inr (congrArg Response.status hresponse), hstate⟩
    | some current =>
      obtain ⟨hresponse, hstate⟩ := retrieve_of_find hstore hid hfind
      exact ⟨Or.inl (congrArg Response.status hresponse), hstate⟩

/-! ## Writes -/

variable {payload clean : Json} {errors : FieldErrors} {partially : Bool}

theorem create_of_clean (h : endpoint.validate payload false = .ok clean) (table : Table R) :
    (endpoint.create payload table).response =
        written .create .created (Table.create clean table).1 ∧
      (endpoint.create payload table).state = (Table.create clean table).2 := by
  have hcreate : endpoint.store.create clean table = Table.encoded (Table.create clean table) := by
    rw [hstore]
    rfl
  simp only [create, createWith, validated_of_ok h, hcreate, Table.encoded]
  cases (Table.create clean table).1 <;> exact ⟨rfl, rfl⟩

section Named

variable (hid : endpoint.store.parseId? raw = some id)
include hid

theorem updateWith_of_missing (hfind : table.find id = none) :
    (endpoint.updateWith raw payload [] partially table).response = .notFound ∧
      (endpoint.updateWith raw payload [] partially table).state = table := by
  simp only [updateWith, withId_of_named hstore hid, resolve_of_missing hstore hfind]
  exact ⟨rfl, rfl⟩

theorem updateWith_of_refused (hfind : table.find id = some current)
    (h : endpoint.validate payload partially = .error errors) :
    (endpoint.updateWith raw payload [] partially table).response = .validation errors ∧
      (endpoint.updateWith raw payload [] partially table).state = table := by
  simp only [updateWith, withId_of_named hstore hid, resolve_of_find hstore hfind,
    validated_of_error h]
  exact ⟨rfl, rfl⟩

theorem updateWith_of_clean (hfind : table.find id = some current)
    (h : endpoint.validate payload partially = .ok clean) :
    (endpoint.updateWith raw payload [] partially table).response =
        written (if partially then .partialUpdate else .update) .ok
          (Table.update id clean table).1 ∧
      (endpoint.updateWith raw payload [] partially table).state =
        (Table.update id clean table).2 := by
  have hupdate : endpoint.store.update id clean partially table =
      Table.encoded (Table.update id clean table) := by
    rw [hstore]
    rfl
  simp only [updateWith, withId_of_named hstore hid, resolve_of_find hstore hfind,
    validated_of_ok h, hupdate, Table.encoded]
  cases (Table.update id clean table).1 <;> exact ⟨rfl, rfl⟩

theorem destroy_of_missing (hfind : table.find id = none) :
    (endpoint.destroy raw table).response = .notFound ∧
      (endpoint.destroy raw table).state = table := by
  rw [destroy, withId_of_named hstore hid, resolve_of_missing hstore hfind]
  exact ⟨rfl, rfl⟩

theorem destroy_of_find (hfind : table.find id = some current) :
    (endpoint.destroy raw table).response = .noContent ∧
      (endpoint.destroy raw table).state = { table with rows := Rows.erase id table.rows } := by
  have hdelete : endpoint.store.delete id table =
      (.ok (), { table with rows := Rows.erase id table.rows }) := by
    rw [hstore]
    change Table.delete id table = _
    rw [Table.delete, hfind]
  rw [destroy, withId_of_named hstore hid, resolve_of_find hstore hfind]
  dsimp only
  rw [hdelete]
  exact ⟨rfl, rfl⟩

end Named

/-! ## The effect of every request -/

theorem effect_create (payload : Json) (table : Table R) :
    Effect endpoint table (.create payload) (endpoint.create payload table).response
      (endpoint.create payload table).state := by
  cases hvalid : endpoint.validate payload false with
  | error errors =>
    obtain ⟨hresponse, hstate⟩ := create_of_refused hvalid table
    exact .of_refusal ⟨Or.inr ⟨errors, hresponse⟩, hstate⟩
  | ok clean =>
    obtain ⟨hresponse, hstate⟩ := create_of_clean hstore hvalid table
    rw [hresponse, hstate]
    rcases Table.create_cases clean table with ⟨failure, hfault, heq⟩ |
      ⟨entries, record, rfl, hmade, heq⟩
    · rw [heq]
      exact .refused (failureResponse_of_not_fault hfault .create)
    · rw [heq]
      exact .created hvalid hmade

theorem effect_update (raw : String) (payload : Json) (partially : Bool) (table : Table R) :
    Effect endpoint table (.update raw payload partially)
      (endpoint.updateWith raw payload [] partially table).response
      (endpoint.updateWith raw payload [] partially table).state := by
  cases hid : endpoint.store.parseId? raw with
  | none =>
    obtain ⟨hresponse, hstate⟩ := withId_of_nameless hid _ _ table
    exact .of_refusal ⟨Or.inl hresponse, hstate⟩
  | some id =>
    cases hfind : table.find id with
    | none =>
      obtain ⟨hresponse, hstate⟩ := updateWith_of_missing hstore hid hfind
      exact .of_refusal ⟨Or.inl hresponse, hstate⟩
    | some current =>
      cases hvalid : endpoint.validate payload partially with
      | error errors =>
        obtain ⟨hresponse, hstate⟩ := updateWith_of_refused hstore hid hfind hvalid
        exact .of_refusal ⟨Or.inr ⟨errors, hresponse⟩, hstate⟩
      | ok clean =>
        obtain ⟨hresponse, hstate⟩ := updateWith_of_clean hstore hid hfind hvalid
        rw [hresponse, hstate]
        rcases Table.update_cases id clean table with ⟨failure, hfault, heq⟩ |
          ⟨changes, current, entries, record, rfl, hfind, hobject, hmade, heq⟩
        · rw [heq]
          exact .refused (failureResponse_of_not_fault hfault _)
        · rw [heq]
          exact .updated hid hfind hvalid hobject hmade

theorem effect_destroy (raw : String) (table : Table R) :
    Effect endpoint table (.destroy raw) (endpoint.destroy raw table).response
      (endpoint.destroy raw table).state := by
  cases hid : endpoint.store.parseId? raw with
  | none =>
    obtain ⟨hresponse, hstate⟩ := withId_of_nameless hid .destroy _ table
    exact .of_refusal ⟨Or.inl hresponse, hstate⟩
  | some id =>
    cases hfind : table.find id with
    | none =>
      obtain ⟨hresponse, hstate⟩ := destroy_of_missing hstore hid hfind
      exact .of_refusal ⟨Or.inl hresponse, hstate⟩
    | some current =>
      obtain ⟨hresponse, hstate⟩ := destroy_of_find hstore hid hfind
      rw [hresponse, hstate]
      exact .destroyed hid hfind

theorem effect_retrieve {request : Request} (hread : request.isRead = true) (raw : String)
    (table : Table R) :
    Effect endpoint table request (endpoint.retrieve raw table).response
      (endpoint.retrieve raw table).state := by
  obtain ⟨hstatus, hstate⟩ := retrieve_leaves hstore raw table
  rw [hstate]
  rcases hstatus with hok | hmissing
  · exact .answered hread hok
  · exact .refused (Or.inr hmissing)

theorem effect_list [RegexLibrary] {request : Request} (hread : request.isRead = true)
    (base : String) (query : QueryString) (table : Table R) :
    Effect endpoint table request (endpoint.list base query table).response
      (endpoint.list base query table).state := by
  obtain ⟨hstatus, hstate⟩ := list_leaves hstore base query table
  rw [hstate]
  exact .answered hread hstatus

theorem effect_handle [RegexLibrary] (request : Request) (table : Table R) :
    Effect endpoint table request (endpoint.handle request table).response
      (endpoint.handle request table).state := by
  cases request with
  | list base query => exact effect_list hstore rfl base query table
  | get id base query =>
    simp only [handle, get]
    cases id.filter fun raw => !Text.isBlankText raw with
    | some raw => exact effect_retrieve hstore rfl raw table
    | none => exact effect_list hstore rfl base query table
  | retrieve raw => exact effect_retrieve hstore rfl raw table
  | create payload => exact effect_create hstore payload table
  | update raw payload partially =>
    rw [handle_update]
    exact effect_update hstore raw payload partially table
  | destroy raw => exact effect_destroy hstore raw table

end Table

end Endpoint

end RecordQuery
