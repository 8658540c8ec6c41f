import EdgeConsole.Settings.Config
import EdgeConsole.Proofs.Json.Printed
import EdgeConsole.Proofs.Resource.Kind
import EdgeConsole.Proofs.Settings.Disk

/-!
# Settings that were saved

The text of settings is read as those settings, whatever characters stand in them
(`Config.ofText_text`), and a file keeps its text until another is saved in its place
(`Act.read?_perform`). So everything that may be done with settings apart from that (`Act`) leaves
what a later load finds: `Config.answer_of_saved` says so for every run of such acts after the
settings were saved, and after a service was set.
-/

namespace EdgeConsole.Settings

open Access (ApiKey Environment)
open Json (Outline)
open Record (Rereads Row Schema)
open Resource (Scalar)

/-! ## The text of settings -/

theorem distinct_configSchema : Record.Distinct configSchema.fields := by decide

/-- A text that may be absent is read from what was written of it. -/
theorem rereads_text (x? : Option String) (depth : Nat) :
    Rereads depth (Scalar.optional .text) x? := by
  cases x? with
  | none => rfl
  | some x => rfl

namespace Config

theorem ofRow_toRow (c : Config) : ofRow c.toRow = c := rfl

theorem toRow_ofRow (row : configSchema.Value) : (ofRow row).toRow = row := by
  cases row with
  | cons apiKey? rest =>
    cases rest with
    | cons endpoint? rest =>
      cases rest with
      | cons service? rest =>
        cases rest with
        | nil => rfl

theorem isExact_toJson (c : Config) : c.toJson.IsExact :=
  Row.isExact_toJson distinct_configSchema (Row.forall_of (fun f x => f.kind.isExact_write x) _)

/-- Settings are read from their text. -/
theorem ofText_text (c : Config) : ofText c.text = .ok c := by
  have hrow : Row.Forall (fun f x => Rereads 126 f.kind x) c.toRow :=
    ⟨rereads_text c.apiKey? 126, rereads_text c.endpoint? 126, rereads_text c.service? 126, trivial⟩
  have hread : configSchema.readText c.text = .ok c.toRow :=
    Json.readText_eq_ok_iff.mpr ⟨_, Json.ofText_pretty c.isExact_toJson,
      Schema.read_toJson distinct_configSchema hrow⟩
  rw [ofText, hread]
  exact congrArg Except.ok c.ofRow_toRow

/-- Settings are loaded from the file that holds their text. -/
theorem load_of_read? {c : Config} {d : Disk} {p : Path} (h : d.read? p = some (.text c.text)) :
    load d p = c := by
  simp only [load, h, Option.bind_some, Content.text?_text, ofText_text]

end Config

/-! ## What is done with settings -/

/-- The settings at hand, and the disk. -/
structure Desk where
  config : Config
  disk : Disk

/-- What may be done with settings: they are loaded or saved, a file is looked at, the service is
set, or it is asked what value is in effect, beside an argument of the command line. -/
inductive Act
  | load (p : Path)
  | save (p : Path)
  | look (p : Path)
  | setService (service : String)
  | key (env : Environment) (argument? : Option String)
  | endpoint (env : Environment) (argument? : Option String)
  | service (argument? : Option String)

/-- What comes of an act. -/
inductive Answer
  | config (c : Config)
  | saved (done : Bool)
  | content (c? : Option Content)
  | key (found : Except Config.MalformedKey (Option ApiKey))
  | endpoint (text : String)
  | service (id? : Option String)

namespace Act

/-- Performs an act. -/
def perform : Act → Desk → Answer × Desk
  | load p, s =>
    let c := Config.load s.disk p
    (.config c, ⟨c, s.disk⟩)
  | save p, s =>
    let (done, d) := s.config.save s.disk p
    (.saved done, ⟨s.config, d⟩)
  | look p, s => (.content (s.disk.read? p), s)
  | setService id, s =>
    let (c, done, d) := s.config.setService id s.disk
    (.saved done, ⟨c, d⟩)
  | key env argument?, s => (.key (s.config.effectiveKey? env argument?), s)
  | endpoint env argument?, s => (.endpoint (s.config.effectiveEndpoint env argument?), s)
  | service argument?, s => (.service (s.config.effectiveService? argument?), s)

/-- The file that an act would write. -/
def target? : Act → Option Path
  | save p => some p
  | setService _ => some Config.defaultPath
  | load _ => none
  | look _ => none
  | key _ _ => none
  | endpoint _ _ => none
  | service _ => none

/-- Performs acts one after another, and lists them with what comes of them. -/
def performAll : List Act → Desk → List (Act × Answer)
  | [], _ => []
  | a :: acts, s => (a, (a.perform s).1) :: performAll acts (a.perform s).2

/-- An act leaves every file that it would not write. -/
theorem read?_perform {a : Act} {p : Path} (h : a.target? ≠ some p) (s : Desk) :
    (a.perform s).2.disk.read? p = s.disk.read? p := by
  have hsave {q : Path} (hq : q ≠ p) (c : Config) :
      (c.save s.disk q).2.read? p = s.disk.read? p :=
    Disk.read?_save_of_ne hq.symm s.disk _
  cases a with
  | save q => exact hsave (fun hq => h (congrArg some hq)) s.config
  | setService id => exact hsave (fun hq => h (congrArg some hq)) (s.config.withService id)
  | load q => rfl
  | look q => rfl
  | key env argument? => rfl
  | endpoint env argument? => rfl
  | service argument? => rfl

/-- The settings that a file holds are those that every load of it finds while no act writes it. -/
theorem answer_of_read? {c : Config} {p : Path} {acts : List Act}
    (hacts : ∀ a ∈ acts, a.target? ≠ some p) {s : Desk}
    (hs : s.disk.read? p = some (.text c.text)) {answer : Answer}
    (h : (load p, answer) ∈ performAll acts s) : answer = .config c := by
  induction acts generalizing s with
  | nil => cases h
  | cons a acts ih =>
    rcases List.mem_cons.mp h with heq | hrest
    · obtain ⟨rfl, rfl⟩ := Prod.mk.inj heq
      exact congrArg Answer.config (Config.load_of_read? hs)
    · refine ih (fun b hb => hacts b (.tail a hb)) ?_ hrest
      rw [read?_perform (hacts a (.head acts)), hs]

end Act

namespace Config

/-- The file of settings that were saved holds their text. -/
theorem read?_of_save {c : Config} {d d' : Disk} {p : Path} (h : c.save d p = (true, d')) :
    d'.read? p = some (.text c.text) := by
  rw [save] at h
  have hread := Disk.read?_save_self (congrArg Prod.fst h)
  rwa [h] at hread

/-- Settings that were saved are what every later load of their file finds, whatever is done
meanwhile short of writing that file; and those that a service was set in are the settings at hand
with no more than that service replaced, and what every later load of the usual file finds. -/
theorem answer_of_saved (c : Config) (d d' : Disk) :
    (∀ p, c.save d p = (true, d') →
      ∀ (held : Config) (acts : List Act), (∀ a ∈ acts, a.target? ≠ some p) →
        ∀ answer, (.load p, answer) ∈ Act.performAll acts ⟨held, d'⟩ → answer = .config c) ∧
    ∀ service c', c.setService service d = (c', true, d') →
      c' = { c with service? := some service } ∧
        ∀ (held : Config) (acts : List Act), (∀ a ∈ acts, a.target? ≠ some defaultPath) →
          ∀ answer, (.load defaultPath, answer) ∈ Act.performAll acts ⟨held, d'⟩ →
            answer = .config { c with service? := some service } := by
  constructor
  · intro p hsave held acts hacts answer hmem
    exact Act.answer_of_read? hacts (read?_of_save hsave) hmem
  · intro service c' hset
    obtain ⟨rfl, hsave⟩ := Prod.mk.inj hset
    refine ⟨rfl, ?_⟩
    intro held acts hacts answer hmem
    exact Act.answer_of_read? hacts (read?_of_save hsave) hmem

/-- The case of a key with a quote, a backslash and a line feed in it: it is loaded after the
settings were saved in another file as well, and after a service was set. -/
theorem answer_of_saved_quoted :
    (∃ d', ({ apiKey? := some "\"\\\n" } : Config).save .empty ["mine"] = (true, d') ∧
      ∀ answer, (.load ["mine"], answer) ∈
          Act.performAll [.service none, .load ["mine"], .save ["yours"], .load ["mine"]] ⟨{}, d'⟩ →
        answer = .config { apiKey? := some "\"\\\n" }) ∧
    ∃ c' d', ({ apiKey? := some "\"\\\n" } : Config).setService "" .empty = (c', true, d') ∧
      c' = { apiKey? := some "\"\\\n", service? := some "" } ∧
        ∀ answer, (.load defaultPath, answer) ∈
            Act.performAll [.load ["mine"], .load defaultPath] ⟨c', d'⟩ →
          answer = .config { apiKey? := some "\"\\\n", service? := some "" } := by
  constructor
  · refine ⟨_, rfl, ?_⟩
    exact (answer_of_saved _ .empty _).1 ["mine"] rfl {} _ (by decide)
  · refine ⟨_, _, rfl, ?_⟩
    obtain ⟨hset, hlater⟩ := (answer_of_saved _ .empty _).2 "" _ rfl
    exact ⟨hset, hlater _ _ (by decide)⟩

/-! ## A service that cannot be saved -/

/-- Settings change with their service unless it is the one that they had. -/
theorem withService_eq_self_iff (c : Config) (service : String) :
    c.withService service = c ↔ c.service? = some service := by
  constructor
  · intro h
    exact (congrArg Config.service? h).symm
  · intro h
    rw [withService, ← h]

/-- A service is not saved exactly if the file of settings cannot be opened, or not all of it can be
written. Then the settings at hand are as they were but for the service, which has been set: they
are as they were altogether only if they had that service. Every other file is as it was, and so is
that of the settings if it could not be opened; but if it could, it holds the first bytes of what was
to be written, and not all of them. -/
theorem setService_unsaved (c : Config) (service : String) (d : Disk) :
    ((c.setService service d).2.1 = false ↔
      d.IsBlocked defaultPath ∨ d.BreaksOff defaultPath (.text (c.withService service).text)) ∧
    ∀ c' d', c.setService service d = (c', false, d') →
      c' = { c with service? := some service } ∧ (c' = c ↔ c.service? = some service) ∧
      (∀ p, p ≠ defaultPath → d'.read? p = d.read? p) ∧
      (d.IsBlocked defaultPath → d'.read? defaultPath = d.read? defaultPath) ∧
      (¬d.IsBlocked defaultPath → ∃ n, d.limit? defaultPath = some n ∧
        n < (Content.text c'.text).bytes.length ∧
        d'.read? defaultPath = some ((Content.text c'.text).start n)) := by
  refine ⟨Disk.fst_save_eq_false_iff d defaultPath _, ?_⟩
  intro c' d' h
  obtain ⟨rfl, hsave⟩ := Prod.mk.inj h
  rw [save] at hsave
  refine ⟨rfl, c.withService_eq_self_iff service, ?_, ?_⟩
  · intro p hp
    have hread := Disk.read?_save_of_ne hp d (.text (c.withService service).text)
    rwa [hsave] at hread
  · have hcases := d.save_cases defaultPath (.text (c.withService service).text)
    rw [hsave] at hcases
    obtain ⟨hblocked, -, hfiles⟩ | ⟨-, -, hdone, -⟩ | ⟨hopen, n, hn, hlength, -, hfiles⟩ := hcases
    · exact ⟨fun _ => hfiles defaultPath, fun hopen => absurd hblocked hopen⟩
    · cases hdone
    · refine ⟨fun hblocked => absurd hblocked hopen, fun _ => ⟨n, hn, hlength, ?_⟩⟩
      rw [hfiles, if_pos rfl]

/-- A disk with a folder at the place of the file of settings, and another file beside it. -/
def cloggedDisk : Disk where
  entries := [(["fastly-mgmt"], .folder), (defaultPath, .folder),
    (["fastly-mgmt", "config.bak"], .file (.text "[]"))]

/-- A disk with space for three bytes of a file of settings, which holds settings already. -/
def fullDisk : Disk where
  entries := [(["fastly-mgmt"], .folder), (defaultPath, .file (.text "\x7b\"api_key\":\"k\"\x7d"))]
  limits := [(defaultPath, 3)]

/-- The cases of a file that cannot be opened, beside which another is as it was, and of one that
cannot be written to its end. -/
theorem setService_unsaved_disks :
    (cloggedDisk.IsBlocked defaultPath ∧ ∃ c' d',
      ({ apiKey? := some "k" } : Config).setService "s" cloggedDisk = (c', false, d') ∧
        c' = { apiKey? := some "k", service? := some "s" } ∧
        d'.read? ["fastly-mgmt", "config.bak"] = some (.text "[]")) ∧
    ¬fullDisk.IsBlocked defaultPath ∧ ∃ c' d',
      ({ apiKey? := some "k" } : Config).setService "s" fullDisk = (c', false, d') ∧
        c' = { apiKey? := some "k", service? := some "s" } ∧
        d'.read? defaultPath = some (.text "\x7b\n ") := by
  have hclogged : cloggedDisk.IsBlocked defaultPath := by decide
  have hopen : ¬fullDisk.IsBlocked defaultPath := by decide
  constructor
  · obtain ⟨hfails, hkept⟩ := setService_unsaved { apiKey? := some "k" } "s" cloggedDisk
    have hset : ({ apiKey? := some "k" } : Config).setService "s" cloggedDisk =
        (_, false, _) := Prod.ext rfl (Prod.ext (hfails.mpr (.inl hclogged)) rfl)
    obtain ⟨hservice, -, hfiles, -⟩ := hkept _ _ hset
    exact ⟨hclogged, _, _, hset, hservice, hfiles _ (by decide)⟩
  · obtain ⟨hfails, hkept⟩ := setService_unsaved { apiKey? := some "k" } "s" fullDisk
    have hset : ({ apiKey? := some "k" } : Config).setService "s" fullDisk =
        (_, false, _) :=
      Prod.ext rfl (Prod.ext (hfails.mpr (.inr ⟨3, rfl, by decide⟩)) rfl)
    obtain ⟨hservice, -, -, -, hbroken⟩ := hkept _ _ hset
    obtain ⟨n, hn, -, hread⟩ := hbroken hopen
    obtain rfl : 3 = n := Option.some.inj hn
    exact ⟨hopen, _, _, hset, hservice, hread⟩

/-- A disk with a file at the place of the folder of settings. -/
def misplacedDisk : Disk where
  entries := [(["fastly-mgmt"], .file (.text "x"))]

/-- With a file at the place of the folder, the service is set in the settings at hand though it
cannot be saved; and with no space for more, the file loses the key that it held as well. -/
theorem setService_unsaved_ne :
    ({} : Config).setService "s" misplacedDisk = ({ service? := some "s" }, false, misplacedDisk) ∧
    ({ service? := some "s" } : Config) ≠ {} ∧
    load fullDisk defaultPath = { apiKey? := some "k" } ∧
    ((load fullDisk defaultPath).setService "s" fullDisk).2.1 = false ∧
    load ((load fullDisk defaultPath).setService "s" fullDisk).2.2 defaultPath = {} := by
  refine ⟨rfl, by decide, ?_⟩
  decide +kernel

end Config

end EdgeConsole.Settings
