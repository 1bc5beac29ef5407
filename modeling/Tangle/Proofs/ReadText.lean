/-
This file says what is read from a file. Whatever bytes are stored, the text that is
read from them is well-formed and has `\n` as its only line end, and reading it again
changes nothing. So a command that checks the text before it hands it on hands on the
same bytes as one that does not, and its check never fails.
-/

import Tangle.Command.Callpath
import Tangle.Proofs.Batch
import Tangle.Proofs.FileOrder
import Tangle.Proofs.Storage
import Tangle.Proofs.TextBytes

namespace Tangle

/-! ### What is read -/

namespace Text.Utf8

theorem return_mem_encode_iff {text : List Char} : 0x0D ∈ encode text ↔ '\r' ∈ text := by
  rw [encode, List.mem_flatMap]
  constructor
  · rintro ⟨c, member, inside⟩
    obtain rfl : c = '\r' := eq_of_mem_utf8EncodeChar (by decide) inside
    exact member
  · intro member
    exact ⟨'\r', member, by decide⟩

end Text.Utf8

open Text.Utf8

namespace Source

theorem normalize_encode {text : List Char} (absent : '\r' ∉ text) :
    normalize (encode text) = encode text := by
  rw [normalize, decodeLossy_encode, Text.unifyBreaks_of_notMem absent]

theorem exists_normalize_eq (content : List UInt8) :
    ∃ text, '\r' ∉ text ∧ normalize content = encode text :=
  ⟨_, Text.return_notMem_unifyBreaks _, rfl⟩

end Source

namespace Command.Callpath

/-- The input that a file is read as, if it can be read. -/
def input? (workspace : Workspace) (path : Path) : Option CallerTree.Input :=
  (workspace.readFile .top path).toOption.map fun stored =>
    ⟨path.text, Source.normalize stored.bytes, stored.tree⟩

/-- What is read is always well-formed, and it is handed on as it is. -/
theorem readInput_value (workspace : Workspace) (path : Path) :
    (readInput workspace path).value = .ok (input? workspace path) := by
  rw [readInput, input?]
  cases workspace.readFile .top path with
  | error error => rfl
  | ok stored =>
    obtain ⟨text, -, read⟩ := Source.exists_normalize_eq stored.bytes
    dsimp only
    rw [decode?_eq_some_iff.mpr read]
    dsimp only
    rw [← read]
    rfl

/-- A file that has a language is a source to the commands that look for calls. -/
theorem exists_readable_of_readFile {workspace : Workspace} {path : Path} {stored : StoredFile}
    {language : Language} (read : workspace.readFile .top path = .ok stored)
    (known : Language.detect? path.text = some language) :
    ∃ input, (readInput workspace path).value = .ok (some input) ∧
      (CallerTree.readable [input]).value =
        [⟨path.text, language, Source.normalize stored.bytes, stored.tree⟩] := by
  have resolved : Language.resolve? none path.text = some language := known
  refine ⟨⟨path.text, Source.normalize stored.bytes, stored.tree⟩, ?_, ?_⟩
  · rw [readInput_value, input?, read]
    rfl
  · rw [CallerTree.readable_value, List.filterMap_cons, CallerTree.Input.source?,
      Source.ofTree_value resolved]
    rfl

theorem readInputs_value (workspace : Workspace) (paths : List Path) :
    (readInputs workspace paths).value = .ok (paths.filterMap (input? workspace)) := by
  induction paths with
  | nil => rfl
  | cons path rest inductionHypothesis =>
    rw [readInputs, Logged.value_bind, readInput_value]
    dsimp only
    rw [Logged.value_bind, inductionHypothesis, List.filterMap_cons]
    cases input? workspace path <;> rfl

/-- Only a null character in a path keeps texts from being collected. -/
theorem exists_null_of_collect {context : Context} {workspace : Workspace} {includeTests : Bool}
    {starts : List String} {fault : Fault}
    (stopped : (collect context workspace includeTests starts).value = .error fault) :
    ∃ null, fault = .nullInPath null := by
  induction starts with
  | nil => cases stopped
  | cons start rest inductionHypothesis =>
    rw [collect, Logged.value_bind] at stopped
    cases found : (filesAt context workspace includeTests start).value with
    | error null =>
      rw [found] at stopped
      exact ⟨null, (Except.error.inj stopped).symm⟩
    | ok files =>
      rw [found] at stopped
      dsimp only at stopped
      rw [Logged.value_bind, readInputs_value] at stopped
      dsimp only at stopped
      rw [Logged.value_bind] at stopped
      cases others : (collect context workspace includeTests rest).value with
      | error other =>
        rw [others] at stopped
        cases stopped
        exact inductionHypothesis others
      | ok inputs =>
        rw [others] at stopped
        cases stopped

end Command.Callpath

/-- A text that was read from a file is well-formed, holds no `\r`, and is read from a file that
holds it; a well-formed content without `\r` is read as it is. So there is a strict reading of the
text, and writing that gives the same bytes. A command that takes this detour never fails for it,
and gets the same source from a file as the commands that do not, whichever paths lead to it; from
a file that may not be read neither of them gets any. -/
theorem read_text_agrees :
    (∀ content : List UInt8,
      let read := Source.normalize content
      read.toByteArray.IsValidUTF8 ∧ 0x0D ∉ read ∧ Source.normalize read = read ∧
      (content.toByteArray.IsValidUTF8 → 0x0D ∉ content → read = content) ∧
      ∃ text, decode? read = some text ∧ encode text = read) ∧
    (∀ (workspace : Workspace) (cwd location : Location) (path place : Path) (stored : StoredFile)
        (entry : Entry) (shown : String),
      workspace.find cwd path = .ok (location, .file stored) →
      workspace.find .top place = .ok (location, entry) →
      (Language.detect? path.text).isSome →
      (Language.detect? place.text).isSome →
      (stored.readable → ∃ source input called,
        (workspace.source cwd path shown).value = .ok source ∧
        (Command.Callpath.readInput workspace place).value = .ok (some input) ∧
        (CallerTree.readable [input]).value = [called] ∧
        source.bytes = Source.normalize stored.bytes ∧ called.bytes = source.bytes) ∧
      (¬stored.readable →
        (workspace.source cwd path shown).value = .error (.unreadable .permissionDenied) ∧
        (Command.Callpath.readInput workspace place).value = .ok none)) ∧
    ∀ (context : Command.Context) (workspace : Workspace) (includeTests : Bool)
        (starts : List String),
      (Command.Callpath.collect context workspace includeTests starts).value ≠ .error .notText := by
  refine ⟨fun content => ?_, ?_, ?_⟩
  · obtain ⟨text, absent, same⟩ := Source.exists_normalize_eq content
    dsimp only
    refine ⟨?_, ?_, ?_, ?_, text, decode?_eq_some_iff.mpr same, same.symm⟩
    · exact isValidUTF8_iff.mpr ⟨text, same⟩
    · rwa [same, return_mem_encode_iff]
    · rw [same, Source.normalize_encode absent]
    · intro valid clean
      obtain ⟨whole, rfl⟩ := isValidUTF8_iff.mp valid
      exact Source.normalize_encode (mt return_mem_encode_iff.mpr clean)
  · intro workspace cwd location path place stored entry shown found also known spoken
    obtain ⟨language, known⟩ := Option.isSome_iff_exists.mp known
    obtain ⟨other, spoken⟩ := Option.isSome_iff_exists.mp spoken
    -- What is found at a place does not depend on the way there.
    have here := Workspace.entryAt?_of_follow (Workspace.find_eq_ok_iff.mp found).2
    have there := Workspace.entryAt?_of_follow (Workspace.find_eq_ok_iff.mp also).2
    obtain rfl : .file stored = entry := Option.some.inj (here.symm.trans there)
    have near := Workspace.readFile_of_find found
    have far := Workspace.readFile_of_find also
    constructor
    · intro allowed
      rw [StoredFile.opened_of_readable allowed] at near far
      obtain ⟨input, taken, parsed⟩ :=
        Command.Callpath.exists_readable_of_readFile far spoken
      refine ⟨⟨shown, language, Source.normalize stored.bytes, stored.tree⟩, input, _, ?_, taken,
        parsed, rfl, rfl⟩
      rw [workspace.source_value known, near]
      rfl
    · intro refused
      rw [StoredFile.opened_of_refused refused] at near far
      constructor
      · rw [workspace.source_value known, near]
        rfl
      · rw [Command.Callpath.readInput_value, Command.Callpath.input?, far]
        rfl
  · intro context workspace includeTests starts stopped
    obtain ⟨null, other⟩ := Command.Callpath.exists_null_of_collect stopped
    cases other

/-- A source with a line end of each kind and a character that breaks off, and an empty directory
beside it. -/
def brokenSource : Workspace :=
  ⟨.directory [("work", .directory [
    ("a.js", .file { bytes := [0x66, 0x0D, 0x0A, 0xE2, 0x82, 0x0D], tree := Tree.empty }),
    ("src", .directory [])])]⟩

theorem read_text_agrees_brokenSource :
    ∃ source input called,
      (brokenSource.source ⟨["work", "src"]⟩ ⟨.here, ["..", "a.js"]⟩ "a.js").value = .ok source ∧
      (Command.Callpath.readInput brokenSource ⟨.top, ["work", "a.js"]⟩).value =
        .ok (some input) ∧
      (CallerTree.readable [input]).value = [called] ∧
      source.bytes = [0x66, 0x0A, 0xEF, 0xBF, 0xBD, 0x0A] ∧ called.bytes = source.bytes := by
  have read : Source.normalize [0x66, 0x0D, 0x0A, 0xE2, 0x82, 0x0D] =
      [0x66, 0x0A, 0xEF, 0xBF, 0xBD, 0x0A] := by decide +kernel
  rw [← read]
  exact (read_text_agrees.2.1 brokenSource ⟨["work", "src"]⟩ ⟨["work", "a.js"]⟩
    ⟨.here, ["..", "a.js"]⟩ ⟨.top, ["work", "a.js"]⟩ _ _ "a.js" rfl rfl (by decide +kernel)
    (by decide +kernel)).1 rfl

end Tangle
