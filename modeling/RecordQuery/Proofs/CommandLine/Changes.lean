import RecordQuery.CommandLine.Run
import RecordQuery.Proofs.Catalog.Reached

/-!
# What a run changes

A run either saves nothing or makes one request that succeeds, and then it saves the items of the
catalog as the request leaves it and shows the answer.
-/

namespace RecordQuery

namespace CommandLine

/-! ## What a run does -/

/-- The command does nothing but look at the catalog. -/
def Command.looks : Command → Bool
  | .list _ | .get _ | .explain _ => true
  | .create _ | .update .. | .patch .. | .delete _ => false

/-- The request that a command makes. An explanation makes none, nor does a payload that cannot be
read. -/
def Command.request? (base : String) : Command → Option Request
  | .list query => some (.list base (QueryString.parse query))
  | .get id => some (.retrieve id)
  | .create payload => (Json.parse? payload).map .create
  | .update id payload => (Json.parse? payload).map fun value => .update id value false
  | .patch id payload => (Json.parse? payload).map fun value => .update id value true
  | .delete id => some (.destroy id)
  | .explain _ => none

def Invocation.request? (invocation : Invocation) : Option Request :=
  invocation.command.request? (invocation.options.baseUrl.getD defaultBaseUrl)

/-- The catalog that a run with these options starts with. -/
def loaded (files : String → FileContent) (options : Options) : Except String Catalog :=
  (settingsOf files options).bind fun settings =>
    (itemsOf files options.data).bind fun items =>
      (Catalog.ofItems items settings).mapError StoreError.message

variable {files : String → FileContent} {words : List String} {catalog : Catalog}
variable {path : String} {request : Request} {invocation : Invocation} {options : Options}
variable {command : Command}

section Runs

variable [RegexLibrary]

/-- The catalog of a run and the request that changes it, if the run has both and the request
succeeds. -/
def change? (files : String → FileContent) (words : List String) : Option (Catalog × Request) :=
  match Invocation.ofWords words with
  | .error _ => none
  | .ok invocation =>
    if invocation.command.looks then none
    else
      match loaded files invocation.options, invocation.request? with
      | .ok catalog, some request =>
        if (catalog.answer request).status.isSuccess then some (catalog, request) else none
      | _, _ => none

/-- The runs that change nothing: command lines that are not understood, commands that only look,
settings or items that cannot be read, payloads that cannot be read, and requests that fail. -/
inductive Idle (files : String → FileContent) (words : List String) : Prop where
  | refused {stop : Stop} (hwords : Invocation.ofWords words = .error stop)
  | looking {invocation : Invocation} (hwords : Invocation.ofWords words = .ok invocation)
      (hlooks : invocation.command.looks = true)
  | unloaded {invocation : Invocation} {message : String}
      (hwords : Invocation.ofWords words = .ok invocation)
      (hloaded : loaded files invocation.options = .error message)
  | unreadable {invocation : Invocation} (hwords : Invocation.ofWords words = .ok invocation)
      (hrequest : invocation.request? = none)
  | failed {invocation : Invocation} {catalog : Catalog} {request : Request}
      (hwords : Invocation.ofWords words = .ok invocation)
      (hloaded : loaded files invocation.options = .ok catalog)
      (hrequest : invocation.request? = some request)
      (hfailed : (catalog.answer request).status.isSuccess = false)

theorem run_of_words (h : Invocation.ofWords words = .ok invocation) :
    run files words =
      match loaded files invocation.options with
      | .ok catalog => execute catalog invocation.options invocation.command
      | .error message => .stopped message := by
  rw [run, h]
  unfold Invocation.run loaded
  dsimp only
  cases settingsOf files invocation.options with
  | error message => rfl
  | ok settings =>
    cases itemsOf files invocation.options.data with
    | error message => rfl
    | ok items =>
      dsimp only [Except.bind]
      cases Catalog.ofItems items settings <;> rfl

theorem execute_of_request
    (h : command.request? (options.baseUrl.getD defaultBaseUrl) = some request) :
    execute catalog options command =
      .ofHandled catalog options.data (!command.looks)
        (catalog.endpoint.handle request catalog.table) := by
  cases command with
  | list query | get id | delete id =>
    obtain rfl := Option.some.inj h
    rfl
  | create payload =>
    obtain ⟨value, hvalue, rfl⟩ := Option.map_eq_some_iff.mp h
    simp only [execute, hvalue]
    rfl
  | update id payload | patch id payload =>
    obtain ⟨value, hvalue, rfl⟩ := Option.map_eq_some_iff.mp h
    simp only [execute, hvalue]
    rfl
  | explain query => exact absurd h (by simp [Command.request?])

theorem execute_of_no_request
    (h : command.request? (options.baseUrl.getD defaultBaseUrl) = none) :
    (execute catalog options command).saved = none ∧
      (command.looks = false → (execute catalog options command).exitCode = 1) := by
  cases command with
  | explain query => exact ⟨rfl, fun hlooks => absurd hlooks (by simp [Command.looks])⟩
  | list query | get id | delete id => exact absurd h (by simp [Command.request?])
  | create payload | update id payload | patch id payload =>
    have hvalue : Json.parse? payload = none := Option.map_eq_none_iff.mp h
    simp only [execute, hvalue]
    exact ⟨rfl, fun _ => rfl⟩

theorem execute_of_failed
    (h : command.request? (options.baseUrl.getD defaultBaseUrl) = some request)
    (hfailed : (catalog.answer request).status.isSuccess = false) :
    (execute catalog options command).saved = none ∧
      (execute catalog options command).exitCode = 1 := by
  have hanswer : (catalog.endpoint.handle request catalog.table).response.status.isSuccess =
      false := hfailed
  rw [execute_of_request h, Run.ofHandled, hanswer, Bool.and_false]
  exact ⟨rfl, rfl⟩

theorem change?_eq_some (h : change? files words = some (catalog, request)) :
    ∃ invocation, Invocation.ofWords words = .ok invocation ∧
      invocation.command.looks = false ∧ loaded files invocation.options = .ok catalog ∧
      invocation.request? = some request ∧
      (catalog.answer request).status.isSuccess = true := by
  unfold change? at h
  split at h
  · exact absurd h (by simp)
  · rename_i invocation hwords
    split at h
    · exact absurd h (by simp)
    · rename_i hlooks
      split at h
      · rename_i hloaded hrequest
        split at h
        · rename_i hsuccess
          obtain ⟨rfl, rfl⟩ := Prod.mk.inj (Option.some.inj h)
          exact ⟨invocation, hwords, Bool.eq_false_iff.mpr hlooks, hloaded, hrequest, hsuccess⟩
        · exact absurd h (by simp)
      · exact absurd h (by simp)

/-- A run is idle or makes a change. -/
theorem idle_iff : Idle files words ↔ change? files words = none := by
  constructor
  · intro h
    cases hchange : change? files words with
    | none => rfl
    | some change =>
      obtain ⟨catalog, request⟩ := change
      obtain ⟨invocation, hwords, hlooks, hloaded, hrequest, hsuccess⟩ := change?_eq_some hchange
      cases h with
      | refused hrefused => exact absurd (hwords.symm.trans hrefused) (by simp)
      | looking hother hlooking =>
        obtain rfl := Except.ok.inj (hwords.symm.trans hother)
        exact absurd (hlooks.symm.trans hlooking) (by simp)
      | unloaded hother hmessage =>
        obtain rfl := Except.ok.inj (hwords.symm.trans hother)
        exact absurd (hloaded.symm.trans hmessage) (by simp)
      | unreadable hother hnone =>
        obtain rfl := Except.ok.inj (hwords.symm.trans hother)
        exact absurd (hrequest.symm.trans hnone) (by simp)
      | failed hother hcatalog hasked hfailed =>
        obtain rfl := Except.ok.inj (hwords.symm.trans hother)
        obtain rfl := Except.ok.inj (hloaded.symm.trans hcatalog)
        obtain rfl := Option.some.inj (hrequest.symm.trans hasked)
        exact absurd (hsuccess.symm.trans hfailed) (by simp)
  · intro h
    unfold change? at h
    split at h
    · rename_i stop hwords
      exact .refused hwords
    · rename_i invocation hwords
      split at h
      · rename_i hlooks
        exact .looking hwords hlooks
      · cases hloaded : loaded files invocation.options with
        | error message => exact .unloaded hwords hloaded
        | ok catalog =>
          cases hrequest : invocation.request? with
          | none => exact .unreadable hwords hrequest
          | some request =>
            rw [hloaded, hrequest] at h
            have hfailed : (catalog.answer request).status.isSuccess = false := by
              simpa using h
            exact .failed hwords hloaded hrequest hfailed

/-- An idle run saves nothing, and it ends with an error unless it only looks. -/
theorem run_of_idle (h : Idle files words) :
    (run files words).saved = none ∧
      ∀ invocation, Invocation.ofWords words = .ok invocation →
        invocation.command.looks = false → (run files words).exitCode = 1 := by
  cases h with
  | refused hwords =>
    refine ⟨?_, fun invocation hother => absurd (hwords.symm.trans hother) (by simp)⟩
    rw [run, hwords]
    rfl
  | @looking invocation hwords hlooks =>
    refine ⟨?_, fun other hother hchanges => ?_⟩
    · rw [run_of_words hwords]
      cases loaded files invocation.options with
      | error message => rfl
      | ok catalog =>
        cases hrequest : invocation.request? with
        | none => exact (execute_of_no_request hrequest).1
        | some request =>
          dsimp only
          rw [execute_of_request hrequest, hlooks]
          rfl
    · obtain rfl := Except.ok.inj (hwords.symm.trans hother)
      exact absurd (hlooks.symm.trans hchanges) (by simp)
  | unloaded hwords hloaded =>
    rw [run_of_words hwords, hloaded]
    exact ⟨rfl, fun _ _ _ => rfl⟩
  | @unreadable invocation hwords hrequest =>
    rw [run_of_words hwords]
    cases loaded files invocation.options with
    | error message => exact ⟨rfl, fun _ _ _ => rfl⟩
    | ok catalog =>
      refine (execute_of_no_request hrequest).imp_right fun hcode other hother hchanges => hcode ?_
      obtain rfl := Except.ok.inj (hwords.symm.trans hother)
      exact hchanges
  | failed hwords hloaded hrequest hfailed =>
    rw [run_of_words hwords, hloaded]
    obtain ⟨hsaved, hcode⟩ := execute_of_failed hrequest hfailed
    exact ⟨hsaved, fun _ _ _ => hcode⟩

/-- A run that changes the catalog saves the items afterwards and shows the answer. -/
theorem run_of_change (h : change? files words = some (catalog, request))
    (hdata : ∀ invocation, Invocation.ofWords words = .ok invocation →
      invocation.options.data = some path) :
    (run files words).saved = some (path, (catalog.after request).snapshot) ∧
      (run files words).exitCode = 0 ∧ (run files words).error = none ∧
      (run files words).stdout = printed (catalog.answer request).toJson := by
  obtain ⟨invocation, hwords, hlooks, hloaded, hrequest, hsuccess⟩ := change?_eq_some h
  rw [run_of_words hwords, hloaded]
  dsimp only
  rw [execute_of_request hrequest, hlooks, hdata invocation hwords]
  have hanswer : (catalog.endpoint.handle request catalog.table).response.status.isSuccess =
      true := hsuccess
  rw [Run.ofHandled, hanswer]
  exact ⟨rfl, rfl, rfl, rfl⟩

end Runs

/-! ## What a run starts with -/

theorem loaded_eq_ok_iff :
    loaded files options = .ok catalog ↔ ∃ settings items,
      settingsOf files options = .ok settings ∧ itemsOf files options.data = .ok items ∧
        Catalog.ofItems items settings = .ok catalog := by
  unfold loaded
  constructor
  · intro h
    cases hsettings : settingsOf files options with
    | error message => exact absurd h (by simp [hsettings, Except.bind])
    | ok settings =>
      cases hitems : itemsOf files options.data with
      | error message => exact absurd h (by simp [hsettings, hitems, Except.bind])
      | ok items =>
        rw [hsettings, hitems] at h
        dsimp only [Except.bind] at h
        cases hcatalog : Catalog.ofItems items settings with
        | error failure => exact absurd h (by simp [hcatalog, Except.mapError])
        | ok built =>
          rw [hcatalog] at h
          obtain rfl := Except.ok.inj h
          exact ⟨settings, items, rfl, rfl, hcatalog⟩
  · rintro ⟨settings, items, hsettings, hitems, hcatalog⟩
    rw [hsettings, hitems]
    dsimp only [Except.bind]
    rw [hcatalog]
    rfl

theorem read?_empty : Catalog.Snapshot.read? "" = none := by
  simp [Catalog.Snapshot.read?, Json.readWith?, Json.readValue?, Json.skipSpace]

/-- No run starts with an empty text. -/
theorem ne_empty_of_itemsOf {items : List Catalog.Item}
    (h : itemsOf files (some path) = .ok items) : files path ≠ .ok "" := by
  intro hempty
  simp only [itemsOf, hempty, read?_empty] at h
  exact absurd h (by simp)

theorem itemsOf_of_text {text : String} {items : List Catalog.Item} (htext : files path = .ok text)
    (hread : Catalog.Snapshot.read? text = some items) :
    itemsOf files (some path) = .ok items := by
  simp only [itemsOf, htext, hread]

end CommandLine

end RecordQuery
