import MarketSnapshot.Proofs.InstantReader
import MarketSnapshot.Proofs.SettingsSources
import MarketSnapshot.Proofs.SnapshotText

namespace MarketSnapshot

namespace Json

theorem writeEntries_snoc (key : String) {levels : Nat} {v : Value} {value : List Char}
    (last : writeWithin levels v = .ok value) :
    ∀ {entries : List (String × Value)} {inner : List Char}, entries ≠ [] →
      writeEntries levels entries = .ok inner →
      writeEntries levels (entries ++ [(key, v)]) =
        .ok (inner ++ ',' :: (writeChars key.toList ++ ':' :: value))
  | [_], _, _, written => by
    obtain ⟨first, ok, rfl⟩ := writeEntries_single written
    have single : writeEntries levels [(key, v)] = .ok (writeChars key.toList ++ ':' :: value) :=
      bind_eq_ok_iff.mpr ⟨value, last, rfl⟩
    exact bind_eq_ok_iff.mpr ⟨first, ok, bind_eq_ok_iff.mpr ⟨_, single, rfl⟩⟩
  | _ :: _ :: _, _, _, written => by
    obtain ⟨first, others, ok, later, rfl⟩ := writeEntries_cons written
    have longer := writeEntries_snoc key last (by simp) later
    exact bind_eq_ok_iff.mpr
      ⟨first, ok, bind_eq_ok_iff.mpr ⟨_, longer, congrArg Except.ok (by simp)⟩⟩

theorem writeWithin_dict_snoc (key : String) {levels : Nat} {entries : List (String × Value)}
    {v : Value} {value cs : List Char} (nonempty : entries ≠ [])
    (written : writeWithin (levels + 1) (.dict entries) = .ok cs)
    (last : writeWithin levels v = .ok value) :
    ∃ body, cs = body ++ ['\x7d'] ∧
      writeWithin (levels + 1) (.dict (entries ++ [(key, v)])) =
        .ok (body ++ ',' :: (writeChars key.toList ++ ':' :: (value ++ ['\x7d']))) := by
  obtain ⟨_, inner, same, ok, rfl⟩ := writeWithin_dict written
  cases same
  have longer := writeEntries_snoc key last nonempty ok
  exact ⟨'\x7b' :: inner, rfl,
    bind_eq_ok_iff.mpr ⟨_, longer, congrArg Except.ok (by simp)⟩⟩

theorem flatMap_escape_digits {digits : List Char} (all : AllDigits digits) :
    digits.flatMap escape = digits := by
  induction digits with
  | nil => rfl
  | cons c digits ih =>
    have plain : escape c = [c] := by
      have digit := all c (by simp)
      have bounds : 48 ≤ c.toNat ∧ c.toNat ≤ 57 := by
        simpa [Text.Numeral.isDigit, Char.le_def, UInt32.le_iff_toNat_le] using digit
      have marks : c ≠ '"' ∧ c ≠ '\\' ∧ c ≠ '\n' ∧ c ≠ '\r' ∧ c ≠ '\t' := by
        refine ⟨?_, ?_, ?_, ?_, ?_⟩ <;> rintro rfl <;> revert bounds <;> decide
      have controls : c.toNat ≠ 8 ∧ c.toNat ≠ 12 ∧ ¬ c.toNat < 32 := by omega
      simp [escape, marks, controls]
    rw [List.flatMap_cons, plain, ih fun d member => all d (List.mem_cons_of_mem c member)]
    rfl

end Json

theorem Moment.writeChars_text (m : Moment) :
    Json.writeChars m.text = '"' :: (m.text ++ ['"']) := by
  have digits := fun width n =>
    Json.flatMap_escape_digits (Stamp.allDigits_fixedDigits width n)
  have year := Json.flatMap_escape_digits (allDigits_toDigits m.date.year)
  have dash : Json.escape '-' = ['-'] := by decide
  have t : Json.escape 'T' = ['T'] := by decide
  have colon : Json.escape ':' = [':'] := by decide
  have point : Json.escape '.' = ['.'] := by decide
  have z : Json.escape 'Z' = ['Z'] := by decide
  have text : m.text.flatMap Json.escape = m.text := by
    simp [Moment.text, digits, year, dash, t, colon, point, z]
  simp [Json.writeChars, text]

namespace SerializerSettings

theorem includeIsoTime_of_load {sources : Sources} {settings : SerializerSettings}
    (loaded : load sources = .ok settings) :
    ((sources.value? "serializer_include_iso_time").elim (.ok false) fun t =>
      Field.readFlag (.text t)) = .ok settings.includeIsoTime := by
  simp only [load, Field.Checked.result_eq_ok_iff, Field.Checked.apply_eq_valid_iff] at loaded
  obtain ⟨_, flag, ⟨_, _, start, _, rfl⟩, read, rfl⟩ := loaded
  cases start
  have entry : Table.find? (sources.fields "serializer_" fieldNames) "include_iso_time" =
      (sources.value? "serializer_include_iso_time").map Value.text :=
    sources.find?_fields "serializer_" "include_iso_time" fieldNames
  unfold Field.optional at read
  rw [entry] at read
  cases found : sources.value? "serializer_include_iso_time" with
  | none =>
    rw [found] at read
    cases read
    rfl
  | some t =>
    rw [found] at read
    exact (Field.ofReader_eq_valid_iff _ _ _ _).mp read

end SerializerSettings

namespace Serializer

theorem writeWithin_timeValue (levels : Nat) (s : InstrumentState) :
    ∃ time : String, Json.writeWithin levels (timeValue s) = .ok time.toList ∧
      (time = "null" ↔
        s.latestTimestamp < -62135596800000 ∨ 253402300799999 < s.latestTimestamp) ∧
      (time ≠ "null" → ∃ text, Stamp.formatValue (.int s.latestTimestamp) = .ok text ∧
        time = "\"" ++ text ++ "\"" ∧ Stamp.instant? text = some s.latestTimestamp) := by
  have range := Stamp.exists_format_iff s.latestTimestamp
  unfold timeValue
  cases format : Stamp.format s.latestTimestamp with
  | error e =>
    rw [format] at range
    refine ⟨"null", rfl, ⟨fun _ => ?_, fun _ => rfl⟩, fun other => absurd rfl other⟩
    have outside := mt range.mpr (by simp)
    omega
  | ok text =>
    have within := range.mp ⟨text, format⟩
    obtain ⟨m, _, _, rfl⟩ := (Stamp.format_eq_ok_iff _ _).mp format
    refine ⟨"\"" ++ String.ofList m.text ++ "\"", ?_, ⟨fun null => ?_, by omega⟩, fun _ =>
      ⟨_, (Stamp.formatValue_eq_ok_iff _ _).mpr format, rfl, Stamp.instant?_format format⟩⟩
    · simp [Json.writeWithin, Json.writeText, Value.string, Text.ofString,
        Moment.writeChars_text]
    · have first := congrArg (fun text : String => text.toList.head?) null
      simp at first

theorem write_eq_ok_iff (withTime : Bool) (s : InstrumentState) (text : String) :
    write ⟨withTime⟩ s = .ok text ↔
      ∃ cs, Json.writeWithin 254 (.dict (Snapshot.layout .float s ++ Snapshot.ending withTime s)) =
        .ok cs ∧ String.ofList cs = text := by
  simp only [write, writeBranch, Snapshot.toValue_document]
  change (Json.writeWithin 254 _).map String.ofList = _ ↔ _
  cases Json.writeWithin 254
    (.dict (Snapshot.layout .float s ++ Snapshot.ending withTime s)) <;> simp [Except.map]

theorem write_timed {s : InstrumentState} (valid : s.Valid) {time : String}
    (written : Json.writeWithin 253 (timeValue s) = .ok time.toList) :
    ∃ body, plain.write s = .ok (body ++ "\x7d") ∧
      write ⟨true⟩ s = .ok (body ++ ",\"time\":" ++ time ++ "\x7d") := by
  have nonempty : Snapshot.layout .float s ++ Snapshot.ending false s ≠ [] := by
    simp [Snapshot.layout]
  have name : Json.writeChars "time".toList = "\"time\"".toList := by decide
  obtain ⟨text, whole⟩ := write_valid plain valid
  obtain ⟨cs, short, rfl⟩ := (write_eq_ok_iff false s text).mp whole
  obtain ⟨body, rfl, long⟩ := Json.writeWithin_dict_snoc "time" nonempty short written
  refine ⟨String.ofList body, ?_, (write_eq_ok_iff true s _).mpr ⟨_, long, ?_⟩⟩
  · rw [whole, String.ofList_append]
  · rw [name]
    apply String.toList_injective
    simp

/-- A state that reading accepts has a plain text and a timed one that differ only before the last
brace. There the timed one has the time: null exactly if the calendar does not have the instant
that is printed as the timestamp, and else the text of that instant, from which it can be read back.
This is so whatever the settings; they decide only where the choice is left to them. -/
theorem timed_text_extends_plain {entries : Entries} {s : InstrumentState}
    (accepted : InstrumentState.read entries = .ok s) :
    ∃ (body time : String) (printed : Entries) (n : Int),
      plain.write s = .ok (body ++ "\x7d") ∧
      Json.read (body ++ "\x7d").toList = some (.dict printed) ∧
      Table.find? printed "timestamp" = some (.int n) ∧
      (time = "null" ↔ n < -62135596800000 ∨ 253402300799999 < n) ∧
      (time ≠ "null" → ∃ text, Stamp.formatValue (.int n) = .ok text ∧
        time = "\"" ++ text ++ "\"" ∧ Stamp.instant? text = some n) ∧
      ∀ sources settings, Settings.load sources = .ok settings →
        (choose settings.serializer (.bool true)).write s =
          .ok (body ++ ",\"time\":" ++ time ++ "\x7d") ∧
        (choose settings.serializer (.bool false)).write s = .ok (body ++ "\x7d") ∧
        ∃ b, ((sources.value? "serializer_include_iso_time").elim (.ok false) fun t =>
            Field.readFlag (.text t)) = .ok b ∧
          choose settings.serializer .null = choose settings.serializer (.bool b) := by
  have valid := InstrumentState.valid_of_read accepted
  obtain ⟨time, written, null, quoted⟩ := writeWithin_timeValue 253 s
  obtain ⟨body, short, long⟩ := write_timed valid written
  have read := (written_text valid short).2
  refine ⟨body, time, _, s.latestTimestamp, short, read, rfl, null, quoted,
    fun sources settings loaded => ⟨long, short, settings.serializer.includeIsoTime, ?_, rfl⟩⟩
  exact SerializerSettings.includeIsoTime_of_load (Settings.serializer_of_load loaded)

def newerTrade : InstrumentState :=
  { InstrumentState.initial [.char 'A'] 7 1 with
    quoteTimestamp := -1
    tradeTimestamp := 1700000000500 }

def timeAsked : Sources := Sources.of [("SERIALIZER_INCLUDE_ISO_TIME", "Yes")] ""

theorem timed_text_extends_plain_newer_trade :
    InstrumentState.read newerTrade.entries = .ok newerTrade ∧
      ∃ settings body, Settings.load timeAsked = .ok settings ∧
        plain.write newerTrade = .ok (body ++ "\x7d") ∧
        (choose settings.serializer .null).write newerTrade =
          .ok (body ++ ",\"time\":\"2023-11-14T22:13:20.500Z\"\x7d") := by
  have valid : newerTrade.Valid :=
    ⟨by decide, ⟨_, rfl, by decide⟩, by decide, by decide, by decide, by decide, by decide,
      by decide, by decide⟩
  have accepted := InstrumentState.read_entries valid
  have loaded : Settings.load timeAsked =
      .ok ⟨⟨"TWS:TICKS:", true⟩, ⟨"INFO", false, "logs"⟩⟩ := by rfl
  obtain ⟨body, time, printed, n, short, read, found, null, quoted, settled⟩ :=
    timed_text_extends_plain accepted
  obtain ⟨long, _, b, set, choice⟩ := settled _ _ loaded
  have layout := read.symm.trans (written_text valid short).2
  cases layout
  cases found
  obtain ⟨text, format, same, _⟩ := quoted (by rw [ne_eq, null]; decide)
  have given : Stamp.formatValue (.int 1700000000500) = .ok "2023-11-14T22:13:20.500Z" := by
    decide +kernel
  have shown := Except.ok.inj (format.symm.trans given)
  have asked : ((timeAsked.value? "serializer_include_iso_time").elim (.ok false) fun t =>
      Field.readFlag (.text t)) = .ok true := by rfl
  have flag := Except.ok.inj (set.symm.trans asked)
  subst same shown flag
  refine ⟨accepted, _, body, loaded, short, ?_⟩
  rw [choice, long]
  congr 1
  apply String.toList_injective
  simp

end Serializer

end MarketSnapshot
