import AccessControl.Logging.Emission
import AccessControl.Proofs.Json.Extent

/-!
# Lines in JSON

When a line in the JSON form is JSON that says what was logged. The texts of a record are put between
quotes as they are, so the line is read back exactly when they stand for themselves there: one that
does not gives fewer characters than it takes, and the line has none to spare for the members that
would have to say it again.
-/
namespace AccessControl

open Json

/-- The name that lines show for a record's logger; the root's own records carry its name. -/
def Emission.shownName (e : Emission) : String :=
  if e.logger.isEmpty then "root" else e.logger

/-- The line is an object whose members are the level, the logger and the message of the record. -/
def Emission.IsToldBy (e : Emission) (line : String) : Prop :=
  ∃ members, Json.read line.toList = .ok (.obj members) ∧
    members.lookup "level" = some (.str e.level.text) ∧
    members.lookup "module" = some (.str e.shownName) ∧
    members.lookup "message" = some (.str e.message)

namespace LogConfig

variable {c : LogConfig} {e : Emission}

theorem toList_line (json : c.format = .json) :
    (c.line e).toList = '\x7b' :: (quote "time" ++ ':' :: (quote e.time ++
      ',' :: (quote "level" ++ ':' :: (quote e.level.text ++
        ',' :: (quote "module" ++ ':' :: (quote e.shownName ++
          ',' :: (quote "message" ++ ':' :: (quote e.message ++ ['\x7d'])))))))) := by
  rw [line, json]
  simp [LineFormat.parts, partText, String.join, quote, Emission.shownName]

/-- What is read before the texts of the record are. -/
abbrev leadingMembers (e : Emission) : List (String × Json) :=
  [("time", .str e.time), ("level", .str e.level.text)]

/-- The members of a line from the logger on. -/
abbrev textMembers (e : Emission) : List Char :=
  quote "module" ++ ':' :: (quote e.shownName ++
    ',' :: (quote "message" ++ ':' :: (quote e.message ++ ['\x7d'])))

theorem isPlain_text (level : LogLevel) : IsPlain level.text := by
  cases level <;> decide +kernel

theorem read_line_iff (json : c.format = .json) (clock : IsPlain e.time)
    {members : List (String × Json)} :
    Json.read (c.line e).toList = .ok (.obj members) ↔
      ∃ rest, Yields (readMembers Text.maxDigits 984 (leadingMembers e) (textMembers e)) members
        rest ∧ skipGap rest = [] := by
  have time : IsPlain "time" := by decide +kernel
  have level : IsPlain "level" := by decide +kernel
  rw [toList_line json, Json.read, quote_append]
  refine readWithin_object_iff.trans (exists_congr fun rest => and_congr_left fun _ => ?_)
  rw [← quote_append, yields_readMembers_quote_more_iff time clock,
    yields_readMembers_quote_more_iff level (isPlain_text e.level)]
  rfl

/-- Plain texts are read as the members of the line. -/
theorem read_line_of_plain (json : c.format = .json) (clock : IsPlain e.time)
    (named : IsPlain e.shownName) (said : IsPlain e.message) :
    Json.read (c.line e).toList = .ok (.obj [("time", .str e.time), ("level", .str e.level.text),
      ("module", .str e.shownName), ("message", .str e.message)]) := by
  refine (read_line_iff json clock).mpr ⟨[], ?_, rfl⟩
  rw [yields_readMembers_quote_more_iff (by decide +kernel) named,
    yields_readMembers_quote_last_iff (by decide +kernel) said]
  exact ⟨rfl, rfl⟩

theorem isToldBy_line_iff (json : c.format = .json) (clock : IsPlain e.time) :
    e.IsToldBy (c.line e) ↔ IsPlain e.shownName ∧ IsPlain e.message := by
  have logger : IsPlain "module" := by decide +kernel
  have message : IsPlain "message" := by decide +kernel
  constructor
  · rintro ⟨members, read, -, named, said⟩
    obtain ⟨rest, run, -⟩ := (read_line_iff json clock).mp read
    have plain : IsPlain e.shownName := by
      have unsaid : lacking (leadingMembers e) "message" e.message = e.message.length + 13 := by
        rw [lacking, if_neg (by simp [List.lookup_cons]), Nat.add_right_comm, Nat.add_comm]
        rfl
      refine isPlain_of_lacking logger (by decide) run named said ?_
      rw [unsaid, List.length_cons, List.length_append, List.length_cons, List.length_append,
        length_quote, length_quote, List.length_singleton]
      have : "message".length = 7 := rfl
      omega
    refine ⟨plain, ?_⟩
    rw [yields_readMembers_quote_more_iff logger plain] at run
    exact isPlain_of_lacking message (by decide) run said named (Nat.le_add_left 1 _)
  · rintro ⟨named, said⟩
    exact ⟨_, read_line_of_plain json clock named said, rfl, rfl, rfl⟩

theorem format_ofEnvironment {env : List (String × String)} {word : String}
    (asked : env.lookup "LOG_FORMAT" = some word) (json : Text.lower word = "json") :
    (ofEnvironment env).format = .json := by
  rw [ofEnvironment, asked]
  change LineFormat.ofWord word = .json
  rw [LineFormat.ofWord, json]
  rfl

/-- With the JSON form asked for, the line of a record is an object that says the record's level,
logger and message exactly when the last two hold no quote, no backslash and no control character. It
is then an object of four members, and else it is no object or says something else. -/
theorem json_line_iff_plain {env : List (String × String)} {word : String}
    (asked : env.lookup "LOG_FORMAT" = some word) (json : Text.lower word = "json") (e : Emission)
    (clock : IsPlain e.time) :
    (e.IsToldBy ((ofEnvironment env).line e) ↔ IsPlain e.shownName ∧ IsPlain e.message) ∧
      (IsPlain e.shownName → IsPlain e.message →
        Json.read ((ofEnvironment env).line e).toList =
          .ok (.obj [("time", .str e.time), ("level", .str e.level.text),
            ("module", .str e.shownName), ("message", .str e.message)])) :=
  ⟨isToldBy_line_iff (format_ofEnvironment asked json) clock,
    read_line_of_plain (format_ofEnvironment asked json) clock⟩

def errorRecord (message : String) : Emission :=
  ⟨"a.b", .error, message, "2024-01-01 12:00:00", "b.py:1"⟩

theorem json_line_errorRecord :
    (errorRecord "say no").IsToldBy
      ((ofEnvironment [("LOG_FORMAT", "Json")]).line (errorRecord "say no")) := by
  have asked : [("LOG_FORMAT", "Json")].lookup "LOG_FORMAT" = some "Json" := rfl
  have told := json_line_iff_plain asked (by decide +kernel) (errorRecord "say no")
    (by decide +kernel)
  exact told.1.mpr ⟨by decide +kernel, by decide +kernel⟩

/-- A message with quotes is written in a line that does not tell it. -/
theorem json_line_of_quotes :
    (ofEnvironment [("LOG_FORMAT", "json")]).timesWritten
        (ofEnvironment [("LOG_FORMAT", "json")]).memory "a.b" .error = 1 ∧
      ¬ (errorRecord "say \"no\"").IsToldBy
        ((ofEnvironment [("LOG_FORMAT", "json")]).line (errorRecord "say \"no\"")) := by
  refine ⟨by decide +kernel, fun told => ?_⟩
  have asked : [("LOG_FORMAT", "json")].lookup "LOG_FORMAT" = some "json" := rfl
  have plain := (isToldBy_line_iff (format_ofEnvironment asked (by decide +kernel))
    (by decide +kernel)).mp told
  exact absurd plain.2 (by decide +kernel)

end LogConfig

end AccessControl
