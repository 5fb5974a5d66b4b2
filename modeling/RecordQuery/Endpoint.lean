import RecordQuery.Event
import RecordQuery.FieldRules
import RecordQuery.Page
import RecordQuery.Reports
import RecordQuery.Response
import RecordQuery.Settings
import RecordQuery.Store.Basic

/-!
# Endpoints

A collection of records behind requests: listing with filters, ordering and pages, and reading,
creating, changing and removing single records. Every request is answered with a response; what a
store or a validator complains about becomes a status and a body.
-/

namespace RecordQuery

structure Endpoint (σ ι : Type) where
  store : Store σ ι
  validate : Validator
  settings : Settings
  /-- Filters that every list is held to, whatever the request asks for. -/
  preFilter : Option Selection

structure Handled (σ : Type) where
  response : Response
  events : List Event
  state : σ

/-- The same answer with events that came before it. -/
def Handled.after {σ : Type} (handled : Handled σ) (events : List Event) : Handled σ :=
  { handled with events := events ++ handled.events }

namespace Endpoint

variable {σ ι : Type} [RegexLibrary]

def recordName (endpoint : Endpoint σ ι) : String := endpoint.store.schema.name

/-! ## What a request asks for -/

def requestedSelection (endpoint : Endpoint σ ι) (query : QueryString) : Selection :=
  Selection.build endpoint.store.schemas endpoint.store.schema query
    endpoint.settings.reservedKeys

def selection (endpoint : Endpoint σ ι) (query : QueryString) : Selection :=
  match endpoint.preFilter with
  | some fixed => fixed.and (endpoint.requestedSelection query)
  | none => endpoint.requestedSelection query

/-- The ordering that a directive asks for; no directive asks for none. -/
def sortKeysOf (endpoint : Endpoint σ ι) (directive : Option String) : List SortKey :=
  match directive with
  | some text => SortKey.resolve endpoint.store.schemas endpoint.store.schema text
  | none => []

/-- The ordering of the request or, if none of it can be used, the default one. -/
def sortKeys (endpoint : Endpoint σ ι) (query : QueryString) : List SortKey :=
  let requested := endpoint.sortKeysOf (query.get? endpoint.settings.orderingParam)
  if requested.isEmpty then endpoint.sortKeysOf endpoint.settings.defaultOrdering else requested

def filterEvents (endpoint : Endpoint σ ι) (query : QueryString) : List Event :=
  Selection.buildEvents endpoint.store.schemas endpoint.store.schema query
    endpoint.settings.reservedKeys

def directiveEvents (endpoint : Endpoint σ ι) (directive : Option String) : List Event :=
  match directive with
  | some text => SortKey.resolveEvents endpoint.store.schemas endpoint.store.schema text
  | none => []

def sortEvents (endpoint : Endpoint σ ι) (query : QueryString) : List Event :=
  let directive := query.get? endpoint.settings.orderingParam
  let requested := endpoint.directiveEvents directive
  if (endpoint.sortKeysOf directive).isEmpty then
    requested ++ endpoint.directiveEvents endpoint.settings.defaultOrdering
  else requested

/-! ## Failures -/

def failureResponse (operation : Operation) : StoreError → Response
  | .notFound => .notFound
  | .validation errors => .validation errors
  | .constraint detail => .constraint detail
  | .backend message =>
    .internal
      (if operation = .destroy then "Failed to delete instance" else "Internal server error")
      message

def failureEvent (endpoint : Endpoint σ ι) (operation : Operation) (key : String) :
    StoreError → Event
  | .notFound => .notFound endpoint.recordName operation key
  | .validation errors => .validationFailed endpoint.recordName operation key errors
  | .constraint detail => .constraintViolated endpoint.recordName operation key detail
  | .backend message => .storageFailed endpoint.recordName operation key message

def fail (endpoint : Endpoint σ ι) (operation : Operation) (key : String)
    (failure : StoreError) (state : σ) : Handled σ :=
  ⟨failureResponse operation failure, [endpoint.failureEvent operation key failure], state⟩

/-! ## Reading -/

/-- The page of a list, or the failure that prevented it. -/
def listPage (endpoint : Endpoint σ ι) (base : String) (query : QueryString) (state : σ) :
    Outcome σ Response :=
  let selection := endpoint.selection query
  let page := Page.ofQuery query endpoint.settings.page
  let (total, state) :=
    if selection.isSatisfiable then endpoint.store.count selection state else (.ok 0, state)
  match total with
  | .error failure => (.error failure, state)
  | .ok total =>
    let (records, state) :=
      if page.offset < total then
        endpoint.store.fetch selection (endpoint.sortKeys query)
          ⟨page.offset, some page.limit⟩ state
      else (.ok [], state)
    match records with
    | .error failure => (.error failure, state)
    | .ok records =>
      let links := page.paginate total base query endpoint.settings.pageParam
      (.ok (.page links.count links.next links.previous records), state)

/-- The whole list, or the failure that prevented it. -/
def listAll (endpoint : Endpoint σ ι) (query : QueryString) (state : σ) : Outcome σ Response :=
  let selection := endpoint.selection query
  let (records, state) :=
    if selection.isSatisfiable then
      endpoint.store.fetch selection (endpoint.sortKeys query) .all state
    else (.ok [], state)
  (records.map fun records => .ok (.array records), state)

/-- Lists the records that a request asks for. Nothing is asked of the store when no record can
match. -/
def list (endpoint : Endpoint σ ι) (base : String) (query : QueryString) (state : σ) :
    Handled σ :=
  let selection := endpoint.selection query
  let skipped :=
    if selection.isSatisfiable then []
    else [Event.storageSkipped endpoint.recordName selection.rejections.length]
  let events := endpoint.filterEvents query ++ endpoint.sortEvents query ++ skipped
  let (answer, state) :=
    if endpoint.settings.paginate then endpoint.listPage base query state
    else endpoint.listAll query state
  match answer with
  | .ok response => ⟨response, events, state⟩
  | .error failure => (endpoint.fail .list "" failure state).after events

/-- The id that a request names, or the event of one that names none. -/
def readId (endpoint : Endpoint σ ι) (operation : Operation) (raw : String) : Except Event ι :=
  if Text.isBlankText raw then .error (.keyMissing endpoint.recordName operation)
  else
    match endpoint.store.parseId? raw with
    | some id => .ok id
    | none => .error (.notFound endpoint.recordName operation raw)

def withId (endpoint : Endpoint σ ι) (operation : Operation) (raw : String)
    (handle : ι → σ → Handled σ) (state : σ) : Handled σ :=
  match endpoint.readId operation raw with
  | .ok id => handle id state
  | .error event => ⟨.notFound, [event], state⟩

def retrieve (endpoint : Endpoint σ ι) (raw : String) : σ → Handled σ :=
  endpoint.withId .retrieve raw fun id state =>
    match endpoint.store.resolve id state with
    | (.ok record, state) => ⟨.ok record, [], state⟩
    | (.error failure, state) => endpoint.fail .retrieve raw failure state

/-- Reads one record if an id is given, and lists otherwise. -/
def get (endpoint : Endpoint σ ι) (id : Option String) (base : String) (query : QueryString) :
    σ → Handled σ :=
  match id.filter fun raw => !Text.isBlankText raw with
  | some raw => endpoint.retrieve raw
  | none => endpoint.list base query

/-! ## Writing -/

/-- The clean payload with fixed entries laid over it. -/
def validated (endpoint : Endpoint σ ι) (payload : Json) (partially : Bool) (extra : Entries) :
    Except StoreError Json :=
  match endpoint.validate payload partially with
  | .error errors => .error (.validation errors)
  | .ok (.object clean) => .ok (.object (Entries.overlay clean extra))
  | .ok clean => .ok clean

/-- Creates a record from a payload and entries that the payload cannot change. -/
def createWith (endpoint : Endpoint σ ι) (payload : Json) (extra : Entries) (state : σ) :
    Handled σ :=
  match endpoint.validated payload false extra with
  | .error failure => endpoint.fail .create "" failure state
  | .ok clean =>
    match endpoint.store.create clean state with
    | (.ok record, state) =>
      ⟨.created record, [.created endpoint.recordName ((record.get? "id").getD .null)], state⟩
    | (.error failure, state) => endpoint.fail .create "" failure state

def create (endpoint : Endpoint σ ι) (payload : Json) : σ → Handled σ :=
  endpoint.createWith payload []

/-- Changes a record; a partial payload leaves the other fields as they are. -/
def updateWith (endpoint : Endpoint σ ι) (raw : String) (payload : Json) (extra : Entries)
    (partially : Bool) : σ → Handled σ :=
  let operation := if partially then Operation.partialUpdate else .update
  endpoint.withId operation raw fun id state =>
    match endpoint.store.resolve id state with
    | (.error failure, state) => endpoint.fail operation raw failure state
    | (.ok _, state) =>
      match endpoint.validated payload partially extra with
      | .error failure => endpoint.fail operation raw failure state
      | .ok clean =>
        match endpoint.store.update id clean partially state with
        | (.ok record, state) =>
          ⟨.ok record, [.updated endpoint.recordName raw partially], state⟩
        | (.error failure, state) => endpoint.fail operation raw failure state

def update (endpoint : Endpoint σ ι) (raw : String) (payload : Json) : σ → Handled σ :=
  endpoint.updateWith raw payload [] false

def partialUpdate (endpoint : Endpoint σ ι) (raw : String) (payload : Json) : σ → Handled σ :=
  endpoint.updateWith raw payload [] true

def destroy (endpoint : Endpoint σ ι) (raw : String) : σ → Handled σ :=
  endpoint.withId .destroy raw fun id state =>
    match endpoint.store.resolve id state with
    | (.error failure, state) => endpoint.fail .destroy raw failure state
    | (.ok _, state) =>
      match endpoint.store.delete id state with
      | (.ok (), state) => ⟨.noContent, [.deleted endpoint.recordName raw], state⟩
      | (.error failure, state) => endpoint.fail .destroy raw failure state

end Endpoint

end RecordQuery
