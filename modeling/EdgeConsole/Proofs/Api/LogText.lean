import EdgeConsole.Proofs.Api.Exchange
import EdgeConsole.Proofs.Text.Cut

/-!
# What a log tells of a body

A body stands in a log by its visible characters alone. One that is longer than the limit is cut
where a character ends, in front of the limit and at most three bytes away from it, and a note says
how long it was (`exists_abridge?_eq`). The note is of characters that a log shows, so it is shown
whole (`filter_cutNote`). Nothing else of a body comes into the log of a session
(`Client.events_judge`).
-/

namespace EdgeConsole.Api

/-- A visible character of ASCII, or a space. -/
def IsLogged (c : Char) : Prop := c = ' ' ∨ '!' ≤ c ∧ c ≤ '~'

instance : DecidablePred IsLogged := fun _ => inferInstanceAs (Decidable (_ ∨ _ ∧ _))

theorem isLoggable_eq (c : Char) : isLoggable c = decide (IsLogged c) := by
  have hspace : c = ' ' ↔ c.toNat = 32 := by
    rw [← Char.toNat_inj]
    rfl
  have hlow : '!' ≤ c ↔ 33 ≤ c.toNat := Iff.rfl
  have hhigh : c ≤ '~' ↔ c.toNat ≤ 126 := Iff.rfl
  rw [isLoggable, ← Bool.decide_and, decide_eq_decide, IsLogged, hspace, hlow, hhigh]
  omega

/-! ## Cut bodies -/

/-- A body that is too long is cut behind its longest start within the limit. -/
theorem exists_abridge?_eq {body : String} (h : logLimit < body.utf8ByteSize) :
    ∃ cut start, Text.lastBoundary? body logLimit = some cut ∧
      Text.firstBytes? body cut = some start ∧ Text.IsLongestStart logLimit body start ∧
      logLimit ≤ start.utf8ByteSize + 3 ∧
      abridge? body = some (start ++ cutNote body.utf8ByteSize) := by
  obtain ⟨cut, start, hcut, hstart, hlongest, hthree⟩ :=
    Text.exists_isLongestStart (Nat.le_of_lt h)
  refine ⟨cut, start, hcut, hstart, hlongest, hthree, ?_⟩
  rw [abridge?, if_pos h, hcut, Option.bind_some, hstart, Option.map_some]

theorem toList_logText {body abridged : String} (h : abridge? body = some abridged) :
    (logText body).toList = abridged.toList.filter IsLogged := by
  have hget : (abridge? body).get (isSome_abridge? body) = abridged :=
    Option.get_of_eq_some _ h
  rw [logText, String.toList_ofList, hget]
  exact List.filter_congr fun c _ => isLoggable_eq c

theorem toList_cutNote (size : Nat) :
    (cutNote size).toList =
      "... [truncated, ".toList ++ (Nat.toDigits 10 size ++ " bytes total]".toList) := by
  unfold cutNote
  rw [String.toList_append, String.toList_append, Nat.toString_eq_repr, Nat.toList_repr,
    List.append_assoc]

/-- A log shows the whole of a note. -/
theorem filter_cutNote (size : Nat) :
    (cutNote size).toList.filter IsLogged = (cutNote size).toList := by
  have hdigits : (Nat.toDigits 10 size).filter IsLogged = Nat.toDigits 10 size := by
    rw [List.filter_eq_self]
    intro c hc
    have hdigit := Nat.isDigit_of_mem_toDigits (by decide) (by decide) hc
    obtain ⟨hlow, hhigh⟩ := Char.isDigit_iff_toNat.mp hdigit
    exact decide_eq_true (.inr ⟨Nat.le_trans (by decide) hlow, Nat.le_trans hhigh (by decide)⟩)
  rw [toList_cutNote, List.filter_append, List.filter_append, hdigits]
  rfl

theorem toList_logText_of_le {body : String} (h : body.utf8ByteSize ≤ logLimit) :
    (logText body).toList = body.toList.filter IsLogged :=
  toList_logText (by rw [abridge?, if_neg (Nat.not_lt.mpr h)])

theorem toList_logText_of_abridge? {body start : String}
    (h : abridge? body = some (start ++ cutNote body.utf8ByteSize)) :
    (logText body).toList = start.toList.filter IsLogged ++ (cutNote body.utf8ByteSize).toList := by
  rw [toList_logText h, String.toList_append, List.filter_append, filter_cutNote]

/-- A text within the limit has no more characters than that. -/
theorem length_filter_le {limit : Nat} {start : String} (h : start.utf8ByteSize ≤ limit) :
    (start.toList.filter IsLogged).length ≤ limit := by
  have hlength := Text.length_le_utf8ByteSize start.toList
  rw [String.ofList_toList] at hlength
  exact Nat.le_trans (List.length_filter_le _ _) (Nat.le_trans hlength h)

/-- Of any body a log shows at most as many characters as the limit has bytes. -/
theorem exists_shown (body : String) :
    ∃ shown, shown.Sublist body.toList ∧ shown.length ≤ logLimit ∧
      (logText body).toList =
        shown ++
          if logLimit < body.utf8ByteSize then (cutNote body.utf8ByteSize).toList else [] := by
  by_cases h : logLimit < body.utf8ByteSize
  · obtain ⟨_, start, -, -, hlongest, -, habridge⟩ := exists_abridge?_eq h
    refine ⟨start.toList.filter IsLogged, ?_, length_filter_le hlongest.fits, ?_⟩
    · exact List.filter_sublist.trans hlongest.isStart.sublist
    · rw [if_pos h, toList_logText_of_abridge? habridge]
  · have hle : body.utf8ByteSize ≤ logLimit := Nat.le_of_not_lt h
    refine ⟨body.toList.filter IsLogged, List.filter_sublist, length_filter_le hle, ?_⟩
    rw [if_neg h, List.append_nil, toList_logText_of_le hle]

/-! ## Logs of sessions -/

/-- Judging an answer notes one event, in which the body of a failure stands by its text for logs,
and that of a success not at all. -/
theorem Client.events_judge (c : Client) (method : Method) (path : String) (status : Web.Status)
    (s : Session) :
    ∃ level front, ∀ bytes,
      ((c.judge method path (.reply status bytes)).run.run s).2.events =
        s.events ++
          [⟨level, front ++ if status.isSuccess then "" else logText (bodyText status bytes)⟩] := by
  let outcome := method.text ++ " " ++ c.url path ++ " -> " ++ status.text
  by_cases h : status.isSuccess = true
  · refine ⟨.trace, outcome, fun bytes => ?_⟩
    rw [judge, if_pos h, if_pos h, String.append_empty]
    rfl
  · refine ⟨.error, "API error: " ++ outcome ++ " - ", fun bytes => ?_⟩
    rw [judge, if_neg h, if_neg h]
    rfl

/-- Whatever a body is, a log shows visible characters of ASCII and spaces of it: all that it has if
it is within the limit, and otherwise all that its longest start within the limit has, and a note.
The start is found by going back from the limit by three bytes at most. No other text of a body is
noted. -/
theorem logText_abridges :
    (∀ body : String,
      (∀ c ∈ (logText body).toList, IsLogged c) ∧
      (body.utf8ByteSize ≤ 200 → (logText body).toList = body.toList.filter IsLogged) ∧
      (200 < body.utf8ByteSize → ∃ cut start,
        Text.lastBoundary? body 200 = some cut ∧ Text.firstBytes? body cut = some start ∧
          Text.IsLongestStart 200 body start ∧ 197 ≤ start.utf8ByteSize ∧
          (logText body).toList = start.toList.filter IsLogged ++
            ("... [truncated, " ++ toString body.utf8ByteSize ++ " bytes total]").toList) ∧
      ∃ shown, shown.Sublist body.toList ∧ shown.length ≤ 200 ∧
        (logText body).toList = shown ++ if 200 < body.utf8ByteSize then
          ("... [truncated, " ++ toString body.utf8ByteSize ++ " bytes total]").toList else []) ∧
    ∀ (c : Client) (method : Method) (path : String) (status : Web.Status) (s : Session),
      ∃ level front, ∀ bytes,
        ((c.judge method path (.reply status bytes)).run.run s).2.events =
          s.events ++ [⟨level, front ++
            if status.isSuccess then "" else logText (bodyText status bytes)⟩] := by
  refine ⟨fun body => ⟨?_, toList_logText_of_le, ?_, exists_shown body⟩, Client.events_judge⟩
  · obtain ⟨abridged, habridged⟩ := Option.isSome_iff_exists.mp (isSome_abridge? body)
    intro c hc
    rw [toList_logText habridged] at hc
    exact of_decide_eq_true (List.mem_filter.mp hc).2
  · intro h
    obtain ⟨cut, start, hcut, hstart, hlongest, hthree, habridge⟩ := exists_abridge?_eq h
    have hleast : 200 ≤ start.utf8ByteSize + 3 := hthree
    exact ⟨cut, start, hcut, hstart, hlongest, by omega, toList_logText_of_abridge? habridge⟩

/-- The case of a character that lies across the limit: it is left out as a whole. -/
theorem logText_abridges_straddling :
    let body := String.ofList (List.replicate 198 'a' ++ ['\n', '€', 'z'])
    200 < body.utf8ByteSize ∧ Text.lastBoundary? body 200 = some 199 ∧
      logText body =
        String.ofList (List.replicate 198 'a') ++ "... [truncated, 203 bytes total]" := by
  intro body
  let front := String.ofList (List.replicate 198 'a' ++ ['\n'])
  have hfront : front.utf8ByteSize = 199 := by
    refine Text.utf8ByteSize_ofList_of_single fun c hc => ?_
    obtain hc | hc := List.mem_append.mp hc
    · rw [List.eq_of_mem_replicate hc]
      rfl
    · rw [List.mem_singleton.mp hc]
      rfl
  have hbody : body = front ++ String.ofList ['€', 'z'] := by
    rw [← String.ofList_append, List.append_assoc]
    rfl
  have hsize : body.utf8ByteSize = 203 := by
    rw [hbody, String.utf8ByteSize_append, hfront]
    rfl
  have hcut : Text.lastBoundary? body 200 = some 199 := by decide +kernel
  have hgiven : Text.firstBytes? body 199 = some front := by
    rw [hbody, ← hfront]
    exact Text.firstBytes?_append front _
  have hshown : front.toList.filter IsLogged = List.replicate 198 'a' := by
    rw [String.toList_ofList]
    decide +kernel
  have hlong : 200 < body.utf8ByteSize := by
    rw [hsize]
    decide
  obtain ⟨cut, start, hfound, hstart, -, -, htext⟩ := (logText_abridges.1 body).2.2.1 hlong
  obtain rfl := Option.some.inj (hcut.symm.trans hfound)
  obtain rfl := Option.some.inj (hgiven.symm.trans hstart)
  have hnote : "... [truncated, " ++ toString 203 ++ " bytes total]" =
      "... [truncated, 203 bytes total]" := by decide
  rw [hshown, hsize, hnote] at htext
  have hwhole := congrArg String.ofList htext
  rw [String.ofList_toList, String.ofList_append, String.ofList_toList] at hwhole
  exact ⟨hlong, hcut, hwhole⟩

end EdgeConsole.Api
