import RecordQuery.CommandLine.Session
import RecordQuery.Proofs.Catalog.Reload
import RecordQuery.Proofs.CommandLine.Changes
import RecordQuery.Proofs.Folder

/-!
# The data file

Command lines run one after the other on one data file. A run either leaves the folder as it is or
changes the catalog by one request that succeeds, and then the file holds the items of the catalog
afterwards: the next run starts with them, under the numbers that they had.
-/

namespace RecordQuery

namespace CommandLine

variable {path : String} {words : List String} {invocation : Invocation}

/-- Every command line names the data file. -/
def NameFile (lines : List (List String)) (path : String) : Prop :=
  ∀ words ∈ lines, ∀ invocation ∈ (Invocation.ofWords words).toOption,
    invocation.options.data = some path

instance (lines : List (List String)) (path : String) : Decidable (NameFile lines path) :=
  inferInstanceAs (Decidable (∀ words ∈ lines, ∀ invocation ∈ (Invocation.ofWords words).toOption,
    invocation.options.data = some path))

theorem NameFile.data_eq {lines : List (List String)} (h : NameFile lines path) {n : Nat}
    (hline : lines[n]? = some words) (hwords : Invocation.ofWords words = .ok invocation) :
    invocation.options.data = some path := by
  refine h words (List.mem_of_getElem? hline) invocation ?_
  rw [hwords]
  rfl

/-- No item has the last number, before the change or after it, and the items afterwards are read
back from the text that is written of them. -/
def IsSafe [RegexLibrary] (change : Catalog × Request) : Prop :=
  let after := change.1.after change.2
  change.1.table.LastFree ∧ after.table.LastFree ∧
    Catalog.Snapshot.read? after.snapshot = some after.items

instance [RegexLibrary] (change : Catalog × Request) : Decidable (IsSafe change) :=
  inferInstanceAs (Decidable (_ ∧ _ ∧ _))

end CommandLine

/-! ## Runs one after the other -/

namespace Folder

open CommandLine Catalog

variable {folder start : Folder} {path : String} {words : List String}
variable {lines : List (List String)} {catalog : Catalog} {request : Request} {n : Nat}

/-- The file holds the items of the catalog in the order of their numbers. A run that reads it
starts with them under the same numbers, and the number behind the highest one is the next. -/
structure Keeps (folder : Folder) (path : String) (catalog : Catalog) : Prop where
  text : folder.find path = .ok catalog.snapshot
  ascending : catalog.items.Pairwise fun a b => a.id < b.id
  reload : ∀ options settings, options.data = some path →
    settingsOf folder.find options = .ok settings →
      ∃ reloaded, loaded folder.find options = .ok reloaded ∧
        reloaded.table.rows = catalog.table.rows ∧
        reloaded.table.nextId.toNat = catalog.table.highestNumber + 1

theorem keeps_of_find {items : List Item} {settings : Settings}
    (h : Sound items settings catalog) (hpriced : catalog.IsPriced)
    (hfree : catalog.table.LastFree)
    (hread : Snapshot.read? catalog.snapshot = some catalog.items)
    (hfind : folder.find path = .ok catalog.snapshot) : folder.Keeps path catalog := by
  refine ⟨hfind, ?_, ?_⟩
  · rw [Catalog.items, Table.records, List.pairwise_map]
    refine h.numbered.ascending.imp_of_mem fun ha hb hlt => ?_
    rwa [h.id_of_mem ha, h.id_of_mem hb]
  · intro options settings hdata hsettings
    obtain ⟨reloaded, hbuilt, hrows, hnext⟩ := h.exists_reloaded hpriced hfree settings
    have hitems : itemsOf folder.find options.data = .ok catalog.items := by
      rw [hdata]
      exact itemsOf_of_text hfind hread
    have hloaded : loaded folder.find options = .ok reloaded :=
      loaded_eq_ok_iff.mpr ⟨settings, catalog.items, hsettings, hitems, hbuilt⟩
    exact ⟨reloaded, hloaded, hrows, hnext⟩

section Runs

variable [RegexLibrary]

def after (start : Folder) (lines : List (List String)) (n : Nat) : Folder :=
  (lines.take n).foldl (fun folder words => (folder.run words).2) start

theorem after_succ (h : lines[n]? = some words) :
    start.after lines (n + 1) = ((start.after lines n).run words).2 := by
  rw [after, after, List.take_add_one, h, List.foldl_append]
  rfl

theorem after_succ_of_end (h : lines[n]? = none) :
    start.after lines (n + 1) = start.after lines n := by
  rw [after, after, List.take_add_one, h]
  exact congrArg _ (List.append_nil _)

theorem run_of_idle (h : Idle folder.find words) :
    folder.run words = (CommandLine.run folder.find words, folder) := by
  unfold Folder.run
  dsimp only
  rw [(CommandLine.run_of_idle h).1]

section Change

variable (hchange : change? folder.find words = some (catalog, request))
variable (hdata : ∀ invocation, Invocation.ofWords words = .ok invocation →
  invocation.options.data = some path)
include hchange hdata

/-- A run that is to change the catalog stops where its text cannot be written. -/
theorem run_of_change :
    (folder.run words).1.exitCode = 1 ∧ (folder.run words).2 = folder ∨
    (folder.run words).1.exitCode = 0 ∧
      (folder.run words).1.stdout = printed (catalog.answer request).toJson ∧
      (folder.run words).2.find path = .ok (catalog.after request).snapshot := by
  obtain ⟨hsaved, hcode, _, hstdout⟩ := CommandLine.run_of_change hchange hdata
  unfold Folder.run
  dsimp only
  rw [hsaved]
  dsimp only
  cases hwrite : folder.write path (catalog.after request).snapshot with
  | error problem => exact Or.inl ⟨rfl, rfl⟩
  | ok after =>
    refine Or.inr ⟨hcode, hstdout, find_of_write hwrite ?_⟩
    obtain ⟨invocation, hwords, _, hloaded, _, _⟩ := change?_eq_some hchange
    obtain ⟨settings, items, _, hitems, _⟩ := loaded_eq_ok_iff.mp hloaded
    rw [hdata invocation hwords] at hitems
    exact ne_empty_of_itemsOf hitems

theorem keeps_of_change (hsafe : IsSafe (catalog, request))
    (hcode : (folder.run words).1.exitCode = 0) :
    (folder.run words).1.stdout = printed (catalog.answer request).toJson ∧
      (folder.run words).2.Keeps path (catalog.after request) := by
  rcases run_of_change hchange hdata with ⟨hfailed, _⟩ | ⟨_, hstdout, hfind⟩
  · exact absurd (hcode.symm.trans hfailed) (by decide)
  · obtain ⟨invocation, _, _, hloaded, _, _⟩ := change?_eq_some hchange
    obtain ⟨settings, items, _, _, hbuilt⟩ := loaded_eq_ok_iff.mp hloaded
    obtain ⟨hbefore, hafter, hread⟩ := hsafe
    have hsound := Sound.of_ofItems hbuilt hbefore
    have hpriced := hsound.isPriced_after (isPriced_of_ofItems hbuilt) request
    exact ⟨hstdout, keeps_of_find (hsound.after_sound request hafter) hpriced hafter hread hfind⟩

end Change

/-- Every change along the command lines is safe. -/
def StaysSafe (start : Folder) (lines : List (List String)) : Prop :=
  ∀ n < lines.length, ∀ words ∈ lines[n]?,
    ∀ change ∈ change? (start.after lines n).find words, IsSafe change

instance (start : Folder) (lines : List (List String)) : Decidable (start.StaysSafe lines) :=
  inferInstanceAs (Decidable (∀ n < lines.length, ∀ words ∈ lines[n]?,
    ∀ change ∈ change? (start.after lines n).find words, IsSafe change))

section Session

variable (hfile : NameFile lines path) (hsafe : start.StaysSafe lines)
include hfile

theorem after_of_exitCode (hline : lines[n]? = some words)
    (hcode : ((start.after lines n).run words).1.exitCode ≠ 0) :
    start.after lines (n + 1) = start.after lines n := by
  rw [after_succ hline]
  cases hchange : change? (start.after lines n).find words with
  | none => rw [run_of_idle (idle_iff.mpr hchange)]
  | some change =>
    rcases run_of_change hchange (fun _ => hfile.data_eq hline) with ⟨_, hsame⟩ | ⟨hzero, _⟩
    · exact hsame
    · exact absurd hzero hcode

include hsafe

theorem keeps_after (hline : lines[n]? = some words)
    (hchange : change? (start.after lines n).find words = some (catalog, request))
    (hcode : ((start.after lines n).run words).1.exitCode = 0) :
    ((start.after lines n).run words).1.stdout = printed (catalog.answer request).toJson ∧
      (start.after lines (n + 1)).Keeps path (catalog.after request) := by
  rw [after_succ hline]
  obtain ⟨hlt, _⟩ := List.getElem?_eq_some_iff.mp hline
  exact keeps_of_change hchange (fun _ => hfile.data_eq hline)
    (hsafe n hlt words hline _ hchange) hcode

/-- The file is as it was at the start or as the last change left it. The induction is on the
number of runs: the next one leaves the folder as it is or is itself the last change. -/
theorem start_or_last_change (n : Nat) :
    start.after lines n = start ∨ ∃ m words catalog request, m < n ∧ lines[m]? = some words ∧
      change? (start.after lines m).find words = some (catalog, request) ∧
      (∀ k, m < k → k ≤ n → start.after lines k = start.after lines n) ∧
      (start.after lines n).Keeps path (catalog.after request) := by
  induction n with
  | zero => exact Or.inl rfl
  | succ n ih =>
    by_cases hsame : start.after lines (n + 1) = start.after lines n
    · rw [hsame]
      refine ih.imp_right fun ⟨m, words, catalog, request, hm, hline, hchange, hkept, hkeeps⟩ =>
        ⟨m, words, catalog, request, by omega, hline, hchange, fun k hmk hk => ?_, hkeeps⟩
      rcases Nat.le_succ_iff.mp hk with hk | rfl
      · exact hkept k hmk hk
      · exact hsame
    · right
      cases hline : lines[n]? with
      | none => exact absurd (after_succ_of_end hline) hsame
      | some words =>
        cases hchange : change? (start.after lines n).find words with
        | none =>
          refine absurd ?_ hsame
          rw [after_succ hline, run_of_idle (idle_iff.mpr hchange)]
        | some change =>
          obtain ⟨catalog, request⟩ := change
          have hcode : ((start.after lines n).run words).1.exitCode = 0 := by
            by_contra hcode
            exact hsame (after_of_exitCode hfile hline hcode)
          refine ⟨n, words, catalog, request, by omega, hline, hchange, fun k hnk hk => ?_,
            (keeps_after hfile hsafe hline hchange hcode).2⟩
          obtain rfl : k = n + 1 := by omega
          rfl

end Session

/-- The data file follows the catalog from run to run. A run that is idle or ends with an error
leaves the folder as it is. A run that changes the catalog and ends without one shows the answer,
and the file then keeps the catalog as the request left it, until the next such run. -/
theorem data_file_follows_catalog (hfile : NameFile lines path) (hsafe : start.StaysSafe lines) :
    (∀ n words, lines[n]? = some words →
      (Idle (start.after lines n).find words ∨
          ((start.after lines n).run words).1.exitCode ≠ 0 →
        start.after lines (n + 1) = start.after lines n) ∧
      ∀ invocation, Invocation.ofWords words = .ok invocation →
        invocation.command.looks = false → ((start.after lines n).run words).1.exitCode = 0 →
          ∃ catalog request,
            change? (start.after lines n).find words = some (catalog, request) ∧
            ((start.after lines n).run words).1.stdout =
              printed (catalog.answer request).toJson ∧
            (start.after lines (n + 1)).Keeps path (catalog.after request)) ∧
    ∀ n, start.after lines n = start ∨
      ∃ m words catalog request, m < n ∧ lines[m]? = some words ∧
        change? (start.after lines m).find words = some (catalog, request) ∧
        (∀ k, m < k → k ≤ n → start.after lines k = start.after lines n) ∧
        (start.after lines n).Keeps path (catalog.after request) := by
  refine ⟨fun n words hline => ⟨?_, ?_⟩, start_or_last_change hfile hsafe⟩
  · rintro (hidle | hcode)
    · exact (after_succ hline).trans (congrArg Prod.snd (run_of_idle hidle))
    · exact after_of_exitCode hfile hline hcode
  · intro invocation hwords hlooks hcode
    cases hchange : change? (start.after lines n).find words with
    | none =>
      have hidle := idle_iff.mpr hchange
      have hfailed : ((start.after lines n).run words).1.exitCode = 1 :=
        (congrArg (fun ran => ran.1.exitCode) (run_of_idle hidle)).trans
          ((CommandLine.run_of_idle hidle).2 invocation hwords hlooks)
      exact absurd (hcode.symm.trans hfailed) (by decide)
    | some change =>
      obtain ⟨catalog, request⟩ := change
      obtain ⟨hstdout, hkeeps⟩ := keeps_after hfile hsafe hline hchange hcode
      exact ⟨catalog, request, rfl, hstdout, hkeeps⟩

end Runs

/-- Two spare parts, in the short form that leaves the names of the fields out. -/
def partsFile : Folder :=
  ofFiles [("items.json", "[[1,\"A-1\",\"spare part\",5],[2,\"A-2\",\"spare part\",5]]")]

/-- The second part goes, and the list is looked at. -/
def partsLines : List (List String) :=
  [["delete", "2", "--data=items.json"], ["list", "-d", "items.json"]]

/-- The number of a part that is gone is given out again by a later run. -/
theorem data_file_follows_catalog_of_parts :
    letI : RegexLibrary := .permissive
    NameFile partsLines "items.json" ∧ partsFile.StaysSafe partsLines ∧
      ∃ reloaded, loaded (partsFile.after partsLines 2).find ⟨none, some "items.json", none⟩ =
          .ok reloaded ∧
        reloaded.table.rows = [(1, sparePart 1 "A-1")] ∧ reloaded.table.nextId.toNat = 2 := by
  let : RegexLibrary := .permissive
  have hfile : NameFile partsLines "items.json" := by decide
  have hsafe : partsFile.StaysSafe partsLines := by decide +kernel
  have hdelete : Invocation.ofWords ["delete", "2", "--data=items.json"] =
      .ok ⟨⟨none, some "items.json", none⟩, .delete "2"⟩ := by decide
  have hlist : Invocation.ofWords ["list", "-d", "items.json"] =
      .ok ⟨⟨none, some "items.json", none⟩, .list ""⟩ := by decide
  have hcode : ((partsFile.after partsLines 0).run
      ["delete", "2", "--data=items.json"]).1.exitCode = 0 := by decide +kernel
  have hleft : (change? (partsFile.after partsLines 0).find
      ["delete", "2", "--data=items.json"]).map (fun change =>
        (change.1.after change.2).table.rows) = some [(1, sparePart 1 "A-1")] := by decide +kernel
  obtain ⟨hruns, _⟩ := data_file_follows_catalog hfile hsafe
  obtain ⟨_, hchanged⟩ := hruns 0 _ rfl
  obtain ⟨catalog, request, hchange, _, hkeeps⟩ := hchanged _ hdelete rfl hcode
  have hrows : (catalog.after request).table.rows = [(1, sparePart 1 "A-1")] := by
    rw [hchange] at hleft
    exact Option.some.inj hleft
  have hsame := (hruns 1 _ rfl).1 (Or.inl (.looking hlist rfl))
  obtain ⟨reloaded, hloaded, hreloaded, hnext⟩ :=
    hkeeps.reload ⟨none, some "items.json", none⟩ .standard rfl rfl
  refine ⟨hfile, hsafe, reloaded, ?_, hreloaded.trans hrows, ?_⟩
  · rw [hsame]
    exact hloaded
  · rw [hnext, Table.highestNumber, hrows]
    rfl

end Folder

end RecordQuery
