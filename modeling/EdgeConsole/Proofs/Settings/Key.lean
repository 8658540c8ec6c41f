import EdgeConsole.Proofs.Api.Endpoint
import EdgeConsole.Proofs.Api.Exchange
import EdgeConsole.Settings.Config

/-!
# Keys in effect

The command line, the settings and the environment may each give a key, in this order. A text with
something else in it than a key and blanks around it is an error on the command line, and counts as
absent in the two other places. So whatever key is found can be used: a client takes it, and no
request fails because of it (`Config.effectiveKey?_usable`).
-/

namespace EdgeConsole.Settings

open Access (ApiKey Environment)
open Api (AllowsText Client)

/-- A text of one or more visible ASCII characters. -/
def IsGraphic (s : String) : Prop := s ≠ "" ∧ ∀ c ∈ s.toList, '!' ≤ c ∧ c ≤ '~'

theorem isVisible_iff (c : Char) : Access.isVisible c = true ↔ '!' ≤ c ∧ c ≤ '~' := by
  rw [Access.isVisible, Bool.and_eq_true, decide_eq_true_eq, decide_eq_true_eq]
  rfl

theorem isUsableKey_iff (s : String) : Access.isUsableKey s = true ↔ IsGraphic s := by
  rw [Access.isUsableKey, Bool.and_eq_true, List.all_eq_true, IsGraphic]
  simp only [isVisible_iff, Bool.not_eq_true', String.isEmpty_eq_false_iff]

instance : DecidablePred IsGraphic := fun s => decidable_of_iff _ (isUsableKey_iff s)

/-- The text without the blanks around it, if it is there and visible ASCII remains. -/
def trimmed? (s? : Option String) : Option String :=
  (s?.map Text.trim).filter fun s => IsGraphic s

namespace Config

/-! ## The key in a text -/

theorem exists_keyOf?_of_isGraphic {s : String} (h : IsGraphic (Text.trim s)) :
    ∃ key, keyOf? s = some key ∧ key.text = Text.trim s :=
  ⟨⟨Text.trim s, (isUsableKey_iff _).mpr h⟩, dif_pos _, rfl⟩

theorem keyOf?_of_not_isGraphic {s : String} (h : ¬IsGraphic (Text.trim s)) : keyOf? s = none :=
  dif_neg fun husable => h ((isUsableKey_iff _).mp husable)

/-- A text that may be absent gives the key that remains of it without the blanks. -/
theorem map_text_bind_keyOf? (s? : Option String) :
    (s?.bind keyOf?).map ApiKey.text = trimmed? s? := by
  cases s? with
  | none => rfl
  | some s =>
    rw [trimmed?, Option.map_some, Option.bind_some]
    by_cases h : IsGraphic (Text.trim s)
    · obtain ⟨key, hkey, htext⟩ := exists_keyOf?_of_isGraphic h
      simp only [hkey, Option.map_some, htext, Option.filter_some, h, decide_true, if_true]
    · simp only [keyOf?_of_not_isGraphic h, Option.map_none, Option.filter_some, h, decide_false,
        Bool.false_eq_true, if_false]

/-! ## Keys that can be used -/

/-- A key on the command line is the one in effect, and a text there that gives none is an error,
whatever the settings and the environment hold; without a text there, the key in effect is the first
one that they give. Whichever it is, the setting up of a client does not fail because of it, and the
client sends it in a header with every request. -/
theorem effectiveKey?_usable (c : Config) (env : Environment) :
    (∀ argument, IsGraphic (Text.trim argument) →
      ∃ key, c.effectiveKey? env (some argument) = .ok (some key) ∧
        key.text = Text.trim argument) ∧
    (∀ argument, ¬IsGraphic (Text.trim argument) →
      c.effectiveKey? env (some argument) = .error .malformedKey) ∧
    (∃ key?, c.effectiveKey? env none = .ok key? ∧
      key?.map ApiKey.text = (trimmed? c.apiKey? <|> trimmed? env.key?)) ∧
    ∀ argument? key, c.effectiveKey? env argument? = .ok (some key) →
      (∀ endpoint agent,
        Client.of? key.text endpoint agent ≠ .error (.setup "API key is empty or malformed")) ∧
      ∀ allows, AllowsText allows →
        Api.isHeaderValue allows key.text = true ∧
        ∀ endpoint agent client, Client.of? key.text endpoint agent = .ok client →
          client.key = key ∧
          ∀ method path form? s, ((client.exchangeWith allows method path form?).run.run s).1 ≠
            .error (.setup "API key is not a valid header value") := by
  refine ⟨?_, ?_, ?_, ?_⟩
  · intro argument h
    obtain ⟨key, hkey, htext⟩ := exists_keyOf?_of_isGraphic h
    exact ⟨key, by rw [effectiveKey?, hkey], htext⟩
  · intro argument h
    rw [effectiveKey?, keyOf?_of_not_isGraphic h]
  · have henv : env.apiKey? = env.key?.bind keyOf? := rfl
    refine ⟨_, rfl, ?_⟩
    simp only [henv, ← map_text_bind_keyOf?, Option.orElse_eq_orElse, Option.orElse_eq_or,
      Option.map_or]
  · intro argument? key _
    refine ⟨Client.of?_ne_malformed key, ?_⟩
    intro allows hallows
    refine ⟨Api.isHeaderValue_key hallows key, ?_⟩
    intro endpoint agent client hclient
    refine ⟨Client.key_of_of? hclient, ?_⟩
    intro method path form? s
    exact client.exchangeWith_ne_setup s method path form? hallows _

/-- The case of a key in the settings with a space in it, beside one in the environment that stands
between a no-break space and an ideographic one; and of a key and of a blank on the command line. -/
theorem effectiveKey?_usable_blanks :
    let c : Config := { apiKey? := some "two words" }
    let env : Environment := ⟨some "\u00a0k!\u3000", none⟩
    (∃ key, c.effectiveKey? env (some "\u0085a\n") = .ok (some key) ∧ key.text = "a") ∧
    c.effectiveKey? env (some "\u2028") = .error .malformedKey ∧
    ∃ key client, c.effectiveKey? env none = .ok (some key) ∧ key.text = "k!" ∧
      Client.of? key.text "http://[::1]:8080" = .ok client ∧
      AllowsText Api.isHeaderByte ∧ Api.isHeaderValue Api.isHeaderByte key.text = true ∧
      ((client.exchangeWith Api.isHeaderByte .get "/service" none).run.run
        (.start .unreachable)).1 ≠ .error (.setup "API key is not a valid header value") := by
  intro c env
  obtain ⟨hgiven, hrefused, ⟨key?, hkey, htext⟩, husable⟩ := effectiveKey?_usable c env
  refine ⟨hgiven "\u0085a\n" (by decide), hrefused "\u2028" (by decide), ?_⟩
  have hfirst : (trimmed? c.apiKey? <|> trimmed? env.key?) = some "k!" := by decide
  rw [hfirst, Option.map_eq_some_iff] at htext
  obtain ⟨key, rfl, htext⟩ := htext
  obtain ⟨-, hheader⟩ := husable none key hkey
  obtain ⟨hvalue, hrequests⟩ := hheader Api.isHeaderByte Api.allowsText_isHeaderByte
  have hclient := Client.of?_eq_ok key.text .console (ApiKey.ofText?_text key)
    (e := "http://[::1]:8080") rfl rfl
  exact ⟨key, _, hkey, htext, hclient, Api.allowsText_isHeaderByte, hvalue,
    (hrequests _ _ _ hclient).2 .get "/service" none _⟩

end Config

end EdgeConsole.Settings
