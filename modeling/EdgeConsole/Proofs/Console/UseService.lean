import EdgeConsole.Console.Run
import EdgeConsole.Proofs.Api.Deed
import EdgeConsole.Proofs.Settings.Config

/-!
# Making a service the usual one

The service is changed in the settings that were loaded, and what is loaded from a file that cannot
be read as settings is nothing at all. So the file has its key afterwards exactly if it could be
read (`SaysConfig`): a member beside the key that stands there twice, or has a value of the wrong
kind, costs the key. `Invocation.run_useService` says so for every file that holds an object with a
key, and `Invocation.run_useService_mistyped` shows one that loses it.
-/

namespace EdgeConsole.Console

open Access (Environment)
open Api (IsObject Session)
open Json (Key Outline)
open Record (valuesOf)
open Settings (Config Disk)

/-! ## Files of settings -/

/-- The file of settings holds an object with these members. -/
def Holds (d : Disk) (ms : List (Key × Outline)) : Prop :=
  ∃ text, d.read? Config.defaultPath = some (.text text) ∧ IsObject text ms

/-- What stands under a name is a text, or else null or nothing. -/
def GivesText (name : String) (ms : List (Key × Outline)) (x? : Option String) : Prop :=
  (valuesOf name ms = [] ∨ valuesOf name ms = [.atom .null]) ∧ x? = none ∨
    ∃ text, valuesOf name ms = [.atom (.text text)] ∧ x? = some text

/-- The members say what the settings are: all names can be read, and those of the settings stand
there at most once, for a text or for null. -/
structure SaysConfig (ms : List (Key × Outline)) (c : Config) : Prop where
  named : ∀ m ∈ ms, ∃ name, m.1 = .text name
  apiKey : GivesText "api_key" ms c.apiKey?
  endpoint : GivesText "endpoint" ms c.endpoint?
  service : GivesText "service_id" ms c.service?

theorem Holds.eq {d : Disk} {ms ms' : List (Key × Outline)} (h : Holds d ms) (h' : Holds d ms') :
    ms = ms' := by
  obtain ⟨text, hread, hobject⟩ := h
  obtain ⟨text', hread', hobject'⟩ := h'
  rw [hread] at hread'
  obtain rfl : text = text' := Settings.Content.text_injective (Option.some.inj hread')
  rw [IsObject, hobject] at hobject'
  simpa using hobject'

theorem GivesText.eq_singleton_iff {name : String} {ms : List (Key × Outline)}
    {x? : Option String} (h : GivesText name ms x?) (text : String) :
    valuesOf name ms = [.atom (.text text)] ↔ x? = some text := by
  rcases h with ⟨hnone | hnull, rfl⟩ | ⟨text', hsome, rfl⟩
  · simp [hnone]
  · simp [hnull]
  · simp [hsome]

/-- Settings are read exactly from the objects that say them. -/
theorem ofText_eq_ok_iff {text : String} {ms : List (Key × Outline)} (h : IsObject text ms)
    {c : Config} : Config.ofText text = .ok c ↔ SaysConfig ms c := by
  rw [Config.ofText, Outcome.map_eq_ok_iff]
  constructor
  · rintro ⟨row, hrow, rfl⟩
    obtain ⟨hnamed, -, hfields⟩ := (h.readText_eq_ok_iff Settings.distinct_configSchema).mp hrow
    rw [← Config.toRow_ofRow row] at hfields
    exact ⟨hnamed, (Api.fieldReads_text_iff "api_key" true).mp hfields.1,
      (Api.fieldReads_text_iff "endpoint" true).mp hfields.2.1,
      (Api.fieldReads_text_iff "service_id" true).mp hfields.2.2.1⟩
  · rintro ⟨hnamed, hapiKey, hendpoint, hservice⟩
    refine ⟨c.toRow, (h.readText_eq_ok_iff Settings.distinct_configSchema).mpr ?_, c.ofRow_toRow⟩
    exact ⟨hnamed, fun m hm _ => h.skip_of_mem m hm,
      (Api.fieldReads_text_iff "api_key" true).mpr hapiKey,
      (Api.fieldReads_text_iff "endpoint" true).mpr hendpoint,
      (Api.fieldReads_text_iff "service_id" true).mpr hservice, trivial⟩

/-- The settings of a file that holds an object are those that its members say, if they say any. -/
theorem load_of_saysConfig {d : Disk} {ms : List (Key × Outline)} (h : Holds d ms) {c : Config}
    (hc : SaysConfig ms c) : Config.load d Config.defaultPath = c := by
  obtain ⟨text, hread, hobject⟩ := h
  simp only [Config.load, hread, Option.bind_some, Settings.Content.text?_text,
    (ofText_eq_ok_iff hobject).mpr hc]

/-- Members that do not say settings count as no settings. -/
theorem load_of_not_saysConfig {d : Disk} {ms : List (Key × Outline)} (h : Holds d ms)
    (hnone : ∀ c, ¬SaysConfig ms c) : Config.load d Config.defaultPath = {} := by
  obtain ⟨text, hread, hobject⟩ := h
  cases htext : Config.ofText text with
  | ok c => exact absurd ((ofText_eq_ok_iff hobject).mp htext) (hnone c)
  | error e =>
    simp only [Config.load, hread, Option.bind_some, Settings.Content.text?_text, htext]

/-- Settings that were saved in their file are said by the members that it holds. -/
theorem exists_holds_of_save {c : Config} {d d' : Disk}
    (h : c.save d Config.defaultPath = (true, d')) : ∃ ms, Holds d' ms ∧ SaysConfig ms c := by
  have hobject : IsObject c.text (Outline.ofMembers (Json.sortMembers c.toRow.members)) :=
    Json.ofText_pretty c.isExact_toJson
  exact ⟨_, ⟨_, Config.read?_of_save h, hobject⟩, (ofText_eq_ok_iff hobject).mp c.ofText_text⟩

/-! ## The command -/

/-- A service that was made the usual one has been saved with the other settings. -/
theorem Invocation.save_of_run {i : Invocation} {service : String}
    (hcommand : i.command = .useService service) {env : Environment} {d : Disk} {s : Session}
    (hdone : (i.run env d s).1.code = 0) :
    ((Config.load d Config.defaultPath).withService service).save d Config.defaultPath =
      (true, (i.run env d s).2.1) := by
  rw [Invocation.run, hcommand] at hdone ⊢
  dsimp only at hdone ⊢
  rw [Config.setService] at hdone ⊢
  cases hsave : ((Config.load d Config.defaultPath).withService service).save d
      Config.defaultPath with
  | mk done d' =>
    rw [hsave] at hdone
    cases done with
    | true => rfl
    | false => cases hdone

/-- After a service was made the usual one, the file of settings holds it. The key that stood there
is still there exactly if the file could be read as settings. -/
theorem Invocation.run_useService {i : Invocation} {service : String}
    (hcommand : i.command = .useService service) {d : Disk} {ms : List (Key × Outline)}
    (hfile : Holds d ms) {key : String} (hkey : valuesOf "api_key" ms = [.atom (.text key)])
    (env : Environment) (s : Session) (hdone : (i.run env d s).1.code = 0) :
    ∃ ms', Holds (i.run env d s).2.1 ms' ∧
      valuesOf "service_id" ms' = [.atom (.text service)] ∧
      (valuesOf "api_key" ms' = [.atom (.text key)] ↔ ∃ c, SaysConfig ms c) := by
  obtain ⟨ms', hholds, hmeans⟩ := exists_holds_of_save (Invocation.save_of_run hcommand hdone)
  refine ⟨ms', hholds, (hmeans.service.eq_singleton_iff service).mpr rfl, ?_⟩
  rw [hmeans.apiKey.eq_singleton_iff]
  constructor
  · intro hkept
    by_contra hnone
    rw [load_of_not_saysConfig hfile fun c hc => hnone ⟨c, hc⟩] at hkept
    cases hkept
  · rintro ⟨c, hc⟩
    rw [load_of_saysConfig hfile hc]
    exact (hc.apiKey.eq_singleton_iff key).mp hkey

/-! ## Two files -/

/-- A disk with nothing but a file of settings, which holds an object. -/
def diskOf (members : List (String × Json)) : Disk :=
  (Disk.empty.save Config.defaultPath (.text (Json.object members).compact)).2

theorem holds_diskOf {members : List (String × Json)} (h : (Json.object members).IsExact) :
    Holds (diskOf members) (Outline.ofMembers members) :=
  ⟨_, rfl, Json.ofText_compact h⟩

theorem code_run_diskOf (service : String) (members : List (String × Json)) (env : Environment)
    (s : Session) :
    ((Invocation.mk {} (.useService service)).run env (diskOf members) s).1.code = 0 := rfl

/-- The case of a file with a member that belongs to no settings: the key is still there. -/
theorem Invocation.run_useService_kept :
    ∃ ms, Holds ((Invocation.mk {} (.useService "s")).run ⟨none, none⟩
        (diskOf [("api_key", .text "k"), ("team", .list [.bool true])])
        (.start .unreachable)).2.1 ms ∧
      valuesOf "service_id" ms = [.atom (.text "s")] ∧
      valuesOf "api_key" ms = [.atom (.text "k")] := by
  have hexact : (Json.object [("api_key", .text "k"), ("team", .list [.bool true])]).IsExact :=
    .object (by simpa using ⟨.text "k", .list (by simpa using .bool true)⟩)
  obtain ⟨ms, hholds, hservice, hkey⟩ := Invocation.run_useService rfl (holds_diskOf hexact) rfl
    ⟨none, none⟩ (.start .unreachable) (code_run_diskOf "s" _ _ _)
  refine ⟨ms, hholds, hservice, hkey.mpr ⟨{ apiKey? := some "k" }, ?_⟩⟩
  exact ⟨by simp [Outline.ofMembers], .inr ⟨"k", rfl, rfl⟩, .inl ⟨.inl rfl, rfl⟩,
    .inl ⟨.inl rfl, rfl⟩⟩

/-- An endpoint that is no text costs the key, although there is one key and it is a text. -/
theorem Invocation.run_useService_mistyped :
    Holds (diskOf [("api_key", .text "k"), ("endpoint", .number (.integer 5))])
      [(.text "api_key", .atom (.text "k")), (.text "endpoint", .atom (.number (.integer 5)))] ∧
    ((Invocation.mk {} (.useService "s")).run ⟨none, none⟩
      (diskOf [("api_key", .text "k"), ("endpoint", .number (.integer 5))])
      (.start .unreachable)).1.code = 0 ∧
    ¬∃ ms, Holds ((Invocation.mk {} (.useService "s")).run ⟨none, none⟩
        (diskOf [("api_key", .text "k"), ("endpoint", .number (.integer 5))])
        (.start .unreachable)).2.1 ms ∧
      valuesOf "api_key" ms = [.atom (.text "k")] := by
  have hexact : (Json.object
      [("api_key", .text "k"), ("endpoint", .number (.integer 5))]).IsExact :=
    .object (by simpa using ⟨.text "k", .number (by decide)⟩)
  have hfile := holds_diskOf hexact
  refine ⟨hfile, code_run_diskOf "s" _ _ _, ?_⟩
  rintro ⟨ms, hholds, hkey⟩
  obtain ⟨ms', hholds', hmeans⟩ := exists_holds_of_save
    (Invocation.save_of_run rfl (code_run_diskOf "s" _ ⟨none, none⟩ (.start .unreachable)))
  rw [hholds.eq hholds', hmeans.apiKey.eq_singleton_iff, load_of_not_saysConfig hfile] at hkey
  · cases hkey
  · intro c hc
    rcases hc.endpoint with ⟨hnone | hnull, -⟩ | ⟨text, htext, -⟩
    · cases hnone
    · cases hnull
    · cases htext

end EdgeConsole.Console
