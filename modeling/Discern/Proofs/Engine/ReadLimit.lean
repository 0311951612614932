import Discern.Engine
import Discern.Proofs.Detection.ReadLimit
import Discern.Proofs.Rule.SharedRead
import Discern.Proofs.Rule.Table

/-!
# Detection under an accepted read limit

The two detectors of an engine see the first layer of a file directly.  The signatures see no
more of it than the read limit; the rules see as much as the widest of them wants, whatever
the limit.  A detection fails if and only if the rules are asked and see more than the limit
(`Engine.detectPath_eq_error_iff`).
-/

namespace Discern

section Strategy

/-- Disabling detectors one after the other puts their names before those that were disabled
already. -/
theorem StrategyBuilder.foldl_withoutDetector (names : List String) (b : StrategyBuilder) :
    names.foldl withoutDetector b = { b with disabled := names.reverse ++ b.disabled } := by
  induction names generalizing b with
  | nil => rfl
  | cons name names ih =>
      rw [List.foldl_cons, ih, withoutDetector, List.reverse_cons, List.append_assoc]
      rfl

/-- Disabling decoders one after the other removes them from the registry. -/
theorem StrategyBuilder.foldl_withoutDecoder (tags : List String) (b : StrategyBuilder) :
    tags.foldl (fun b tag => b.withoutDecoder (.ofString tag)) b =
      { b with decoders := tags.foldl (fun r tag => r.remove (.ofString tag)) b.decoders } := by
  induction tags generalizing b with
  | nil => rfl
  | cons tag tags ih =>
      rw [List.foldl_cons, ih]
      rfl

/-- The decoders that a configuration leaves. -/
def Configuration.decoders (c : Configuration) : DecoderRegistry :=
  c.disabledDecoders.foldl (fun r tag => r.remove (.ofString tag)) (.addAll .empty .defaults)

/-- The strategy of a configuration in one piece: the detectors that are left, the decoders that are
left, and the bounds. -/
theorem Configuration.strategy_eq (c : Configuration) (library : Library) (table : RuleTable) :
    c.strategy library table = {
      detectors := [Detector.ofLibrary library (c.readLimit.map UInt64.toNat),
        Detector.ofTable table].filter fun d => d.name ∉ c.disabledDetectors
      decoders := c.decoders, maxRecursion := c.maxRecursion, readLimit := c.readLimit } := by
  rw [strategy]
  dsimp only
  rw [StrategyBuilder.foldl_withoutDecoder, StrategyBuilder.foldl_withoutDetector]
  have forgotten : ∀ d : Detector, (!(c.disabledDetectors.reverse ++ []).contains d.name) =
      decide (d.name ∉ c.disabledDetectors) := by
    intro d
    simp
  have same := funext forgotten
  exact congrArg (fun keep => (⟨[_, _].filter keep, _, _, _⟩ : Strategy)) same

/-- No decoder that comes with the library is for the unknown format. -/
theorem Configuration.decoders_unknown (c : Configuration) : c.decoders.get? .unknown = none := by
  have kept : ∀ (tags : List String) (decoders : DecoderRegistry),
      decoders.get? .unknown = none →
      (tags.foldl (fun r tag => r.remove (.ofString tag)) decoders).get? .unknown = none := by
    intro tags
    induction tags with
    | nil => exact fun _ absent => absent
    | cons tag tags ih =>
        intro decoders absent
        refine ih _ ?_
        rw [DecoderRegistry.get?_remove, absent, ite_self]
  exact kept _ _ (by decide)

end Strategy

section Detectors

/-- What is found among the asked tags settles a layer. -/
theorem Library.settles?_detect (library : Library) (asked : TagSet) (lead : Bytes) :
    LayerPass.settles? asked (.ok (library.detect asked lead)) = none ↔
      (library.detect asked lead).isUnknown = true := by
  have wanted : (library.detect asked lead).isUnknown = false →
      asked.contains (library.detect asked lead).tag = true := by
    rw [detect]
    cases found : List.find? (fun hit : Hit => asked.contains hit.formatId.tag)
        ((library.classify lead none).hits.filter Hit.isPositive) with
    | none => exact fun known => nomatch known
    | some hit =>
        have asks := List.find?_some found
        exact fun _ => asks
  rw [LayerPass.settles?]
  cases identified : (library.detect asked lead).isUnknown with
  | true => simp
  | false => simp [wanted identified]

/-- The tags that are left when the signatures were asked for some and saw the first bytes. -/
def Library.leaves (library : Library) (asked : TagSet) (lead : Bytes) : TagSet :=
  if library.declared.intersects asked = false then asked
  else if (library.detect asked lead).isUnknown then asked.removeAll library.declared
  else .empty

variable {σ : Type} {reader : Reader σ} {content : Bytes} {limit : Nat}

/-- **The rules spend the buffer** if the widest of them wants to see more than the limit, and
there is more to see. -/
theorem LayerPass.SpendsIff.rules (table : RuleTable) (asked : TagSet) :
    SpendsIff reader content limit asked [.ofTable table]
      (limit < content.length ∧ limit < RuleTable.windowOf (table.enabled asked)) := by
  cases meets : (Detector.ofTable table).declared.intersects asked with
  | true =>
      refine (nil.cons_of_judge meets (Detector.ofTable_run table asked)).congr ?_
      rw [Option.elim_some, List.length_take, and_false, or_false]
      omega
  | false =>
      refine (nil.cons_of_apart meets).congr ⟨False.elim, fun wide => ?_⟩
      have none_asked : table.enabled asked = [] := by
        rw [RuleTable.enabled, List.filter_eq_nil_iff]
        intro entry member wanted
        have declared : entry.tag ∈ table.declared :=
          TagSet.mem_ofList.mpr (List.mem_map_of_mem member)
        have shared : (Detector.ofTable table).declared.intersects asked = true :=
          TagSet.intersects_iff.mpr ⟨entry.tag, declared, TagSet.contains_iff.mp wanted⟩
        rw [meets] at shared
        cases shared
      rw [none_asked] at wide
      exact Nat.not_lt_zero limit wide.2

/-- The signatures see no more than the limit, and leave it to later detectors. -/
theorem LayerPass.SpendsIff.signatures {rest : List Detector} {spends : TagSet → Prop}
    (later : ∀ asked, SpendsIff reader content limit asked rest (spends asked))
    (idle : ¬ spends .empty) (library : Library) (asked : TagSet) :
    SpendsIff reader content limit asked (.ofLibrary library (some limit) :: rest)
      (spends (library.leaves asked (content.take limit))) := by
  rw [Library.leaves]
  cases meets : library.declared.intersects asked with
  | false => exact (later asked).cons_of_apart meets
  | true =>
      refine ((later _).cons_of_judge meets fun _ => rfl).congr ?_
      have within : ¬ limit < (content.take limit).length := by
        rw [List.length_take]
        omega
      rw [Option.elim_some, Library.settles?_detect, if_neg (fun apart => nomatch apart)]
      cases (library.detect asked (content.take limit)).isUnknown with
      | true =>
          rw [if_pos rfl]
          exact ⟨fun spent => (spent.resolve_left within).2, fun spends => .inr ⟨rfl, spends⟩⟩
      | false =>
          rw [if_neg Bool.false_ne_true]
          refine ⟨fun spent => ?_, fun spends => absurd spends idle⟩
          cases (spent.resolve_left within).1

end Detectors

section Letters

/-- A string is read back from its bytes. -/
theorem Utf8.decode?_ofString (s : String) : decode? (ofString s) = some s := by
  rw [decode?, ofString, String.fromUTF8?]
  exact dif_pos s.isValidUTF8

/-- The text of a table with one rule, which wants a content to begin with `n` letters. -/
def RuleTable.letters (n : Nat) : List Char :=
  ['b', 'i', 'g', '=', 's', 't', 'r', 'i', 'n', 'g', ':'] ++ List.replicate n 'A'

/-- The one rule of that table. -/
def RuleTable.lettersEntry (n : Nat) : LiteralEntry where
  tag := .ofString "big"
  bytes := List.replicate (n + 1) 65
  named := by decide
  unbroken := by decide
  undivided := by decide
  noComment := by decide
  filled := List.cons_ne_nil _ _

/-- The table of letters has one rule, for as many of them. -/
theorem RuleTable.read_letters (n : Nat) :
    read (String.ofList (letters (n + 1))) =
      .ok ⟨[⟨.ofString "big", .literal (List.replicate (n + 1) 65)⟩]⟩ := by
  have plain : ∀ c ∈ List.replicate (n + 1) 'A', Literal.Plain c := by
    intro c member
    rw [List.eq_of_mem_replicate member]
    decide
  have spelled := Literal.written_of_plain plain
  rw [List.map_replicate] at spelled
  have tag : (FormatTag.ofString "big").text.toList = ['b', 'i', 'g'] := by decide
  have line : (lettersEntry n).line (List.replicate (n + 1) 'A') = letters (n + 1) := by
    change (FormatTag.ofString "big").text.toList ++ _ = _
    rw [tag]
    rfl
  have written : Written ((lettersEntry n).line (List.replicate (n + 1) 'A')) [lettersEntry n] :=
    .last (.entry spelled)
  rw [← line, read_of_written written]
  rfl

end Letters

namespace Engine

variable {t : FileTree} {c : Configuration} {e : Engine} {table : RuleTable}

/-- What an engine is made of. -/
theorem fields_of_make (made : make t c = .ok e) (tabled : c.table t = .ok table) :
    e.configuration = c ∧ e.strategy = c.strategy e.library table := by
  rw [make] at made
  split at made
  · cases made
  · cases made
  · cases loaded : c.library t with
    | error error =>
        rw [loaded] at made
        cases made
    | ok library =>
        rw [loaded, tabled] at made
        cases made
        exact ⟨rfl, rfl⟩

/-- An engine is made of a valid configuration and of what it loads. -/
theorem make_of_parts {library : Library} {exclusions : List Exclusion}
    (valid : c.validate = .ok ()) (excluded : c.exclusions = .ok exclusions)
    (loaded : c.library t = .ok library) (tabled : c.table t = .ok table) :
    make t c = .ok {
      configuration := c, library, strategy := c.strategy library table, exclusions
      enabled := c.enabled (c.strategy library table).declared } := by
  rw [make, valid, excluded]
  dsimp only
  rw [loaded, tabled]

/-- The tags that the rules of an engine are asked for in a first layer of which the signatures
see the first bytes. -/
def leftForRules (e : Engine) (lead : Bytes) : TagSet :=
  if "SignatureDetector" ∈ e.configuration.disabledDetectors then e.enabled
  else e.library.leaves e.enabled lead

/-- The first layer of a file spends the replay buffer if the rules are asked and the widest of
them wants to see more than the limit. -/
theorem spendsIff (made : make t c = .ok e) (tabled : c.table t = .ok table) (content : Bytes)
    {limit : UInt64} (limited : c.readLimit = some limit) :
    LayerPass.SpendsIff Cursor.kind.toReader content limit.toNat e.enabled e.strategy.detectors
      ("ModuleDetector" ∉ c.disabledDetectors ∧ limit.toNat < content.length ∧
        limit.toNat < RuleTable.windowOf
          (table.enabled (e.leftForRules (content.take limit.toNat)))) := by
  obtain ⟨configured, planned⟩ := fields_of_make made tabled
  have signatures : (Detector.ofLibrary e.library (some limit.toNat)).name = "SignatureDetector" :=
    rfl
  have rules : (Detector.ofTable table).name = "ModuleDetector" := rfl
  have nothing : table.enabled .empty = [] := List.filter_eq_nil_iff.mpr fun _ _ => nofun
  rw [planned, Configuration.strategy_eq, limited, leftForRules, configured]
  simp only [Option.map_some, List.filter_cons, List.filter_nil, signatures, rules,
    decide_eq_true_eq]
  -- One pass for each choice of detectors that the configuration leaves.
  by_cases noRules : "ModuleDetector" ∈ c.disabledDetectors
  · by_cases noSignatures : "SignatureDetector" ∈ c.disabledDetectors
    · simp only [noRules, noSignatures, not_true_eq_false, ↓reduceIte, false_and]
      exact .nil
    · simp only [noRules, noSignatures, not_true_eq_false, not_false_eq_true, ↓reduceIte,
        false_and]
      exact .signatures (fun _ => .nil) not_false e.library e.enabled
  · by_cases noSignatures : "SignatureDetector" ∈ c.disabledDetectors
    · simp only [noRules, noSignatures, not_true_eq_false, not_false_eq_true, ↓reduceIte,
        true_and]
      exact .rules table e.enabled
    · simp only [noRules, noSignatures, not_false_eq_true, ↓reduceIte, true_and]
      refine .signatures (.rules table) ?_ e.library e.enabled
      rw [nothing]
      exact fun wide => Nat.not_lt_zero _ wide.2

/-- Detection fails with the errors of its run. -/
theorem detect_eq_error_iff {stream : ByteStream} {error : Error} :
    e.detect stream = .error error ↔ ∃ failure,
      (e.strategy.run e.enabled stream).result = .error failure ∧ error = .stream failure := by
  rw [detect]
  cases (e.strategy.run e.enabled stream).result with
  | ok detection => simp
  | error failure => simp [eq_comm]

/-- Under a read limit the run over a file fails if and only if its first layer spends the
replay buffer. -/
theorem run_eq_error_iff (made : make t c = .ok e) (tabled : c.table t = .ok table)
    (content : Bytes) {limit : UInt64} (limited : c.readLimit = some limit)
    (failure : StreamError) :
    (e.strategy.run e.enabled (.buffered Cursor.kind.toReader (.start content) none)).result =
        .error failure ↔
      ("ModuleDetector" ∉ c.disabledDetectors ∧ limit.toNat < content.length ∧
        limit.toNat < RuleTable.windowOf
          (table.enabled (e.leftForRules (content.take limit.toNat)))) ∧
      failure = ⟨.resettingAfterDetector, .limitExceeded⟩ := by
  have given : e.strategy.readLimit = some limit := by
    rw [(fields_of_make made tabled).2, Configuration.strategy_eq, limited]
  have left := Buffered.left_start (Cursor.shows (Cursor.start content)) (some limit.toNat)
  have start : (Buffered.start (Cursor.start content) (some limit.toNat)).Start
      Cursor.kind.toReader content limit.toNat :=
    ⟨⟨left, rfl, fun _ => Nat.zero_le _, nofun⟩, rfl⟩
  rw [Strategy.run, given]
  exact (spendsIff made tabled content limited).run_eq_error_iff start e.strategy.decoders
    e.strategy.maxRecursion.toNat failure

/-- A file beside a table with one rule, which wants it to begin with `n + 1` letters. -/
def lettersTree (n : Nat) (content : Bytes) : FileTree :=
  ⟨[(["rules"], Utf8.ofString (String.ofList (RuleTable.letters (n + 1)))), (["f"], content)], []⟩

/-- The least read limit, and the table of letters. -/
def lettersConfiguration : Configuration :=
  { readLimit := some Configuration.leastReadLimit, enabledFormats := ["big"]
    modulesFile := some "rules", exclude := [] }

/-- The configuration of the table of letters is valid. -/
theorem lettersConfiguration_validate : lettersConfiguration.validate = .ok () := rfl

-- Splitting a text is a recursion on positions, which does not compute in a proof: one step
-- for each letter.
theorem pieces_rules : (Path.mk "rules").pieces = ["rules"] := by
  change (if ("/" == "") = true then ["rules"] else "rules".splitOnAux "/" 0 0 0 []) = _
  rw [if_neg (by decide)]
  iterate 5 rw [String.splitOnAux, if_neg (by decide), if_neg (by decide)]
  rw [String.splitOnAux, if_pos (by decide)]
  decide

theorem pieces_f : (Path.mk "f").pieces = ["f"] := by
  change (if ("/" == "") = true then ["f"] else "f".splitOnAux "/" 0 0 0 []) = _
  rw [if_neg (by decide), String.splitOnAux, if_neg (by decide), if_neg (by decide),
    String.splitOnAux, if_pos (by decide)]
  decide

/-- A file with the bytes of a text has that text. -/
theorem readText_of_look {path : Path} {text : String}
    (looked : t.look path = .ok (.file (Utf8.ofString text))) : t.readText path = .ok text := by
  have read : t.read path = .ok (Utf8.ofString text) := by
    rw [FileTree.read, looked]
    rfl
  rw [FileTree.readText, read]
  simp only [bind, Except.bind, Utf8.decode?_ofString]
  rfl

/-- The configuration loads the table of letters. -/
theorem lettersConfiguration_table (n : Nat) (content : Bytes) :
    lettersConfiguration.table (lettersTree n content) =
      .ok ⟨[⟨.ofString "big", .literal (List.replicate (n + 1) 65)⟩]⟩ := by
  have looked : (lettersTree n content).look ⟨"rules"⟩ =
      .ok (.file (Utf8.ofString (String.ofList (RuleTable.letters (n + 1))))) := by
    rw [FileTree.look, FileTree.locate, pieces_rules]
    rfl
  have text := readText_of_look looked
  change (lettersTree n content).loadTable ⟨"rules"⟩ = _
  rw [FileTree.loadTable, text]
  dsimp only
  rw [RuleTable.read_letters]
  rfl

/-- The file beside the table is loaded, if it is not too large. -/
theorem lettersTree_load {e : Engine} (made : make t c = .ok e) (n : Nat) (content : Bytes)
    (small : content.length ≤ c.maxFileSize.toNat) (tabled : c.table t = .ok table) :
    e.load (lettersTree n content) ⟨"f"⟩ = .ok content := by
  have looked : (lettersTree n content).look ⟨"f"⟩ = .ok (.file content) := by
    rw [FileTree.look, FileTree.locate, pieces_f]
    rfl
  rw [load, FileTree.loadContent, looked, (fields_of_make made tabled).1]
  exact if_neg (Nat.not_lt_of_le small)

/-- The built-in library has no signature for the table's tag, so its rule is asked. -/
theorem exists_lettersEngine (n : Nat) (content : Bytes) :
    ∃ e, make (lettersTree n content) lettersConfiguration = .ok e ∧
      ∀ lead, e.leftForRules lead = .ofList [.ofString "big"] := by
  have builtIn : (LibraryDocument.builtIn.toLibrary).toOption.any (fun library =>
      !library.declared.intersects (.ofList [.ofString "big"])) = true := by decide +kernel
  cases loaded : LibraryDocument.builtIn.toLibrary with
  | error error =>
      rw [loaded] at builtIn
      cases builtIn
  | ok library =>
      rw [loaded] at builtIn
      have apart : library.declared.intersects (.ofList [.ofString "big"]) = false :=
        (Bool.not_eq_true' _).mp builtIn
      have library_eq : lettersConfiguration.library (lettersTree n content) = .ok library := by
        change LibraryDocument.builtIn.toLibrary.mapError _ = _
        rw [loaded]
        rfl
      refine ⟨_, make_of_parts lettersConfiguration_validate rfl library_eq
        (lettersConfiguration_table n content), fun lead => ?_⟩
      change library.leaves (.ofList [.ofString "big"]) lead = _
      rw [Library.leaves, if_pos apart]

/-- **When detection fails.**  The layers of a file of an allowed size are detected, whatever
the configuration, the library and the rules, unless there is a read limit, the file is longer
than the limit, and the rules that are asked for its first layer want to see more bytes than
the limit.  Then and only then the rewind after the rules fails. -/
theorem detectPath_eq_error_iff (made : make t c = .ok e) (tabled : c.table t = .ok table)
    {path : Path} {content : Bytes} (loaded : e.load t path = .ok content) (error : Error) :
    e.detectPath t path = .error error ↔
      error = .stream ⟨.resettingAfterDetector, .limitExceeded⟩ ∧
        ∃ limit, c.readLimit = some limit ∧ "ModuleDetector" ∉ c.disabledDetectors ∧
          limit.toNat < content.length ∧
          limit.toNat < RuleTable.windowOf
            (table.enabled (e.leftForRules (content.take limit.toNat))) := by
  rw [detectPath, loaded]
  dsimp only
  rw [detect_eq_error_iff]
  cases limited : c.readLimit with
  | none =>
      have planned := (fields_of_make made tabled).2
      have free : e.strategy.readLimit = none := by
        rw [planned, Configuration.strategy_eq, limited]
      have unknown : e.strategy.decoders.get? .unknown = none := by
        rw [planned, Configuration.strategy_eq]
        exact c.decoders_unknown
      obtain ⟨detection, result⟩ := DetectionRun.run_ok_of_unlimited
        (Buffered.left_start (Cursor.shows (Cursor.start content)) none) rfl unknown e.enabled
        e.strategy.detectors e.strategy.maxRecursion.toNat
      rw [Strategy.run, free]
      constructor
      · rintro ⟨failure, failed, -⟩
        cases result.symm.trans failed
      · rintro ⟨-, limit, given, -⟩
        cases given
  | some limit =>
      constructor
      · rintro ⟨failure, failed, rfl⟩
        obtain ⟨spends, rfl⟩ := (run_eq_error_iff made tabled content limited failure).mp failed
        exact ⟨rfl, limit, rfl, spends⟩
      · rintro ⟨rfl, other, same, spends⟩
        obtain rfl := Option.some.inj same
        exact ⟨_, (run_eq_error_iff made tabled content limited _).mpr ⟨spends, rfl⟩, rfl⟩

/-- A content that is longer than the least read limit. -/
def zeds : Bytes := List.replicate 1100 0x7a

theorem zeds_length : zeds.length = 1100 := List.length_replicate

/-- There is an engine for the table of 1025 letters, which asks its rule in every first layer. -/
theorem exists_zedsEngine :
    ∃ e, make (lettersTree 1024 zeds) lettersConfiguration = .ok e ∧
      (∀ lead, e.leftForRules lead = .ofList [.ofString "big"]) ∧
      e.load (lettersTree 1024 zeds) ⟨"f"⟩ = .ok zeds := by
  obtain ⟨e, made, asked⟩ := exists_lettersEngine 1024 zeds
  have small : zeds.length ≤ lettersConfiguration.maxFileSize.toNat := by
    rw [zeds_length]
    decide
  have tabled := lettersConfiguration_table 1024 zeds
  exact ⟨e, made, asked, lettersTree_load made 1024 zeds small tabled⟩

/-- The content is longer than the read limit, and so detection fails where the rule is wider than
that. -/
theorem detectPath_eq_error_iff_zeds :
    ∃ e table, make (lettersTree 1024 zeds) lettersConfiguration = .ok e ∧
      lettersConfiguration.table (lettersTree 1024 zeds) = .ok table ∧
      e.load (lettersTree 1024 zeds) ⟨"f"⟩ = .ok zeds ∧
      ∀ error, e.detectPath (lettersTree 1024 zeds) ⟨"f"⟩ = .error error ↔
        error = .stream ⟨.resettingAfterDetector, .limitExceeded⟩ ∧
          ∃ limit, lettersConfiguration.readLimit = some limit ∧
            "ModuleDetector" ∉ lettersConfiguration.disabledDetectors ∧
            limit.toNat < zeds.length ∧
            limit.toNat < RuleTable.windowOf
              (table.enabled (e.leftForRules (zeds.take limit.toNat))) := by
  obtain ⟨e, made, -, loaded⟩ := exists_zedsEngine
  have tabled := lettersConfiguration_table 1024 zeds
  exact ⟨e, _, made, tabled, loaded, detectPath_eq_error_iff made tabled loaded⟩

/-- **An accepted read limit may break detection:** the least one is narrower than the literal
of an accepted table. -/
theorem detectPath_fails_behind_wide_literal :
    lettersConfiguration.validate = .ok () ∧
    ∃ e, make (lettersTree 1024 zeds) lettersConfiguration = .ok e ∧
      e.load (lettersTree 1024 zeds) ⟨"f"⟩ = .ok zeds ∧
      e.detectPath (lettersTree 1024 zeds) ⟨"f"⟩ =
        .error (.stream ⟨.resettingAfterDetector, .limitExceeded⟩) := by
  obtain ⟨e, made, asked, loaded⟩ := exists_zedsEngine
  have tabled := lettersConfiguration_table 1024 zeds
  have wide : RuleTable.windowOf ((⟨[⟨.ofString "big", .literal (List.replicate 1025 65)⟩]⟩ :
      RuleTable).enabled (.ofList [.ofString "big"])) = 1025 := by
    have wanted : (TagSet.ofList [.ofString "big"]).contains (.ofString "big") = true := by decide
    simp only [RuleTable.enabled, List.filter_cons, wanted, ↓reduceIte, List.filter_nil]
    change max 0 (List.replicate 1025 (65 : UInt8)).length = 1025
    rw [List.length_replicate]
    rfl
  refine ⟨lettersConfiguration_validate, e, made, loaded, ?_⟩
  rw [detectPath, loaded]
  dsimp only
  rw [detect_eq_error_iff]
  refine ⟨_, (run_eq_error_iff made tabled zeds rfl _).mpr ⟨⟨List.not_mem_nil, ?_, ?_⟩, rfl⟩, rfl⟩
  · rw [zeds_length]
    decide
  · rw [asked, wide]
    decide

end Engine

end Discern
