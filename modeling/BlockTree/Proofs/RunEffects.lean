import BlockTree.Proofs.AddedSwitch
import BlockTree.Proofs.Concatenation
import BlockTree.Proofs.FileWrites
import BlockTree.Proofs.LoadedOptions
import BlockTree.Proofs.Strategies
import BlockTree.Proofs.WrittenMessages

/-!
What a run of the command that renders leaves behind.

* `Request.Renders`: a document is loaded with the options asked for, and rendered.
* `runRequest_quiet`: a run that does not come to that prints nothing and leaves all files alone.
* `deliver_of_fault`, `deliver_of_plain`: a run that does writes its two outputs, where they can be
  written and differ; a message whose line cannot be written breaks it off, and so does a text that
  cannot be written as octets.
* `run_render_effects`: both together for all arguments, with and without the parallel strategy,
  on every platform.
-/

namespace BlockTree.CommandLine

variable {platform : Platform} {registry : Registry} {files : FileTree} {journal : Journal}

/-! ### Requests that are rendered -/

/-- **A request is rendered**: its document is loaded, and so are the options that it asks for, and
with them the blocks of the document come to this markup with these messages. -/
def Request.Renders (platform : Platform) (registry : Registry) (files : FileTree)
    (journal : Journal) : Request → Options → List Block → Rendered → Prop
  | .render request, options, blocks, rendered =>
    platform.loadDocument registry files (.ofText request.input) = .ok blocks
      ∧ platform.requestedOptions files request = .ok options
      ∧ (renderBlocksAt (.ofOptions options) (platform.pool.schedule options.strategy) blocks
          journal).1 = .ok rendered
  | _, _, _, _ => False

/-- **The handlers of a request are pure**: those that its document names, if it can be loaded. -/
def Request.IsPure (platform : Platform) (registry : Registry) (files : FileTree) :
    Request → Prop
  | .render request =>
    ∀ blocks, platform.loadDocument registry files (.ofText request.input) = .ok blocks →
      ∀ node ∈ nodesOf blocks, node.HasPureHandler
  | _ => True

section

variable {options : Options} {blocks : List Block} {rendered : Rendered}

/-- What is rendered is delivered. -/
lemma exists_deliver {request : RenderRequest}
    (h : (Request.render request).Renders platform registry files journal options blocks rendered) :
    ∃ after, platform.runRequest registry files journal (.render request)
      = platform.deliver files after request rendered := by
  obtain ⟨hblocks, hoptions, hrendered⟩ := h
  rcases hpair : renderBlocksAt (.ofOptions options) (platform.pool.schedule options.strategy)
    blocks journal with ⟨outcome, after⟩
  rw [hpair] at hrendered
  obtain rfl : outcome = .ok rendered := hrendered
  exact ⟨after, by simp only [Platform.runRequest, Platform.runRender, hblocks, hoptions, hpair]⟩

/-- The messages that are delivered are those of the document, in its order: if its siblings are
taken in turn, or no handler could tell in which order they are. -/
lemma messages_of_renders {request : Request}
    (h : request.Renders platform registry files journal options blocks rendered)
    (horder : options.strategy = .sequential ∨ ∀ node ∈ nodesOf blocks, node.HasPureHandler) :
    rendered.messages = (gatherEach blocks journal).1 := by
  cases request with
  | render request =>
      obtain ⟨-, -, hrendered⟩ := h
      have hsame : renderBlocksAt (.ofOptions options) (platform.pool.schedule options.strategy)
            blocks journal
          = renderBlocks (.ofOptions { options with strategy := .sequential }) blocks journal := by
        rcases horder with hsequential | hpure
        · rw [hsequential]
          exact congrFun (renderBlocksAt_const (.ofOptions options) .sequential blocks) journal
        · exact renderBlocksAt_schedule options platform.pool hpure journal
      rw [hsame] at hrendered
      rw [gatherEach_of_renderBlocks (inOrder_ofOptions _) (Prod.ext hrendered rfl)]
  | _ => exact h.elim

end

lemma ofLoadFault_ne_status (fault : LoadFault) (code : Nat) :
    Ending.ofLoadFault fault ≠ .status code := by
  rw [Ending.ofLoadFault]
  split <;> exact fun h => Ending.noConfusion h

lemma ofFault_ne_status (input : Path) (fault : Fault) (code : Nat) :
    Ending.ofFault input fault ≠ .status code := by
  cases fault <;> exact fun h => Ending.noConfusion h

/-- **A run that renders nothing** prints nothing and leaves the files as they are. -/
lemma runRequest_quiet {request : Request} (hrender : request.IsRender)
    (h : ¬ ∃ options blocks rendered,
      request.Renders platform registry files journal options blocks rendered) :
    ∃ ending after, platform.runRequest registry files journal request = .quiet ending files after
      ∧ ∀ code, ending ≠ .status code := by
  cases request with
  | render request =>
      rw [Platform.runRequest, Platform.runRender]
      cases hblocks : platform.loadDocument registry files (.ofText request.input) with
      | error fault => exact ⟨_, _, rfl, ofLoadFault_ne_status fault⟩
      | ok blocks =>
          cases hoptions : platform.requestedOptions files request with
          | error fault => exact ⟨_, _, rfl, ofLoadFault_ne_status fault⟩
          | ok options =>
              rcases hrendered : renderBlocksAt (.ofOptions options)
                (platform.pool.schedule options.strategy) blocks journal with
                ⟨fault | rendered, after⟩
              · refine ⟨_, after, ?_, ofFault_ne_status (.ofText request.input) fault⟩
                simp only [hrendered]
              · have hfirst := congrArg Prod.fst hrendered
                exact absurd ⟨options, blocks, rendered, hblocks, hoptions, hfirst⟩ h
  | renderNothing => exact ⟨_, _, rfl, fun _ h => Ending.noConfusion h⟩
  | _ => exact hrender.elim

/-- **In parallel** a request with pure handlers has the same effects, with whatever pool. -/
lemma runRequest_inParallel (pool : Pool) (journal : Journal) {request : Request}
    (hpure : request.IsPure platform registry files) :
    Platform.runRequest { platform with pool } registry files journal request.inParallel
      = platform.runRequest registry files journal request := by
  cases request with
  | render request => exact runRender_parallel platform pool registry files journal request hpure
  | _ => rfl

/-! ### Delivery -/

/-- **The targets of a request**: the file for the markup and the file for the messages, where they
were asked for. They differ, and each can be written in its turn. -/
structure Targets (halves : Halves) (files : FileTree) (request : RenderRequest) (html : Text)
    (page log : Option Path) : Prop where
  toPage : files.Reaches request.output page
  toLog : (files.put page (halves.stored html)).Reaches request.messages log
  differ : ∀ target ∈ page, ∀ other ∈ log, target.text ≠ other.text

/-- **The markup is delivered**: to its file, or to the output if it has none. No file but the
targets has changed. -/
structure Report.ShowsMarkup (report : Report) (files : FileTree) (html : Text)
    (page log : Option Path) : Prop where
  output : report.output = if page.isNone then html else []
  inPage : ∀ path ∈ page, report.files.file? path = some (Utf8.encode html)
  others : ∀ path, (∀ target ∈ page, target.text ≠ path.text) →
    (∀ target ∈ log, target.text ≠ path.text) → report.files.file? path = files.file? path

/-- **The markup is lost**: it cannot be written as octets, for the reason in these words. Its file
is empty, all others are as they were, and nothing is printed. -/
structure Report.LosesMarkup (report : Report) (files : FileTree) (page : Option Path)
    (words : Text) : Prop where
  output : report.output = []
  errors : report.errors = []
  inPage : ∀ path ∈ page, report.files.file? path = some []
  others : ∀ path, (∀ target ∈ page, target.text ≠ path.text) →
    report.files.file? path = files.file? path
  failure : report.ending = .failure (unencodable words)

/-- **The messages are delivered**: one after another as lines, all of them to their file, and the
status says whether there is an error among them. -/
structure Report.ShowsMessages (report : Report) (messages : List Message) (log : Option Path) :
    Prop where
  errors : report.errors = messages.flatMap fun message => message.format ++ ['\n']
  inLog : ∀ path ∈ log, report.files.file? path = some (Utf8.encode (writeMessages messages))
  status : report.ending
    = .status (if ∃ message ∈ messages, message.severity = .error then 1 else 0)

/-- **The messages are spelled out**: one of them has a half of a pair in its text. Their lines have
the escapes of such halves; their file, if they have one, is empty and ends the run with a failure.
-/
structure Report.SpellsMessages (report : Report) (halves : Halves) (messages : List Message)
    (log : Option Path) : Prop where
  errors : report.errors
    = halves.spelled (messages.flatMap fun message => message.format ++ ['\n'])
  inLog : ∀ path ∈ log, report.files.file? path = some []
  failure : ∀ path ∈ log, ∃ words, halves.fault? (writeMessages messages) = some words
    ∧ report.ending = .failure (unencodable words)
  status : log = none → report.ending
    = .status (if ∃ message ∈ messages, message.severity = .error then 1 else 0)

/-- **The messages break the run off**: there are lines for those in front of the first that cannot
be written, and the file for messages is not written. -/
structure Report.BreaksOff (report : Report) (halves : Halves) (files : FileTree)
    (messages : List Message) (log : Option Path) : Prop where
  errors : report.errors = halves.spelled
    ((messages.takeWhile Message.isWritable).flatMap fun message => message.format ++ ['\n'])
  inLog : ∀ path ∈ log, report.files.file? path = files.file? path
  failure : report.ending = .failure (.other (.badValue Text.tooLongToWrite))

/-- How a run ends that has come to its messages. -/
def Ending.ofLog (halves : Halves) (messages : List Message) (log : Option Path) : Ending :=
  match log, halves.fault? (writeMessages messages) with
  | some _, some words => .failure (unencodable words)
  | _, _ => .ofMessages messages

section

variable {request : RenderRequest} {rendered : Rendered} {page log : Option Path}

/-- Nothing is delivered of markup that cannot be written. -/
lemma deliver_of_fault
    (h : Targets platform.halves files request (finish request rendered.html) page log)
    {words : Text} (hwords : platform.halves.fault? (finish request rendered.html) = some words)
    (journal : Journal) :
    platform.deliver files journal request rendered
      = .quiet (.failure (unencodable words)) (files.put page []) journal := by
  have hpage := h.toPage
  rw [Platform.deliver]
  cases houtput : request.output with
  | none =>
      rw [houtput] at hpage
      cases hpage
      simp only [hwords, Option.map_some]
      rfl
  | some target =>
      rw [houtput] at hpage
      obtain ⟨hleads⟩ := hpage
      simp only [FileTree.writeFile_of_leads platform hleads, hwords, Option.map_some,
        platform.halves.stored_eq_nil hwords]

/-- What is delivered of messages whose file can be written. -/
lemma deliverMessages_eq {asked : Option Text} (h : files.Reaches asked log) (journal : Journal)
    (printed : Text) (messages : List Message) :
    platform.deliverMessages files journal asked printed messages
      = if messages.all Message.isWritable then
          ⟨.ofLog platform.halves messages log, printed,
            platform.halves.spelled (messageLines (printable messages)),
            files.put log (platform.halves.stored (writeMessages messages)), journal⟩
        else
          ⟨.failure (.other (.badValue Text.tooLongToWrite)), printed,
            platform.halves.spelled (messageLines (printable messages)), files, journal⟩ := by
  unfold Platform.deliverMessages
  cases h with
  | none => rfl
  | some hleads =>
      simp only [FileTree.writeFile_of_leads platform hleads, Ending.ofLog]
      cases platform.halves.fault? (writeMessages messages) <;> rfl

/-- What is delivered of markup that can be written: all of it, and then the messages. -/
lemma deliver_of_plain
    (h : Targets platform.halves files request (finish request rendered.html) page log)
    (hplain : platform.halves.fault? (finish request rendered.html) = none) (journal : Journal) :
    platform.deliver files journal request rendered
      = platform.deliverMessages (files.put page (finish request rendered.html)) journal
          request.messages (if page.isNone then finish request rendered.html else [])
          rendered.messages := by
  have hpage := h.toPage
  rw [Platform.deliver]
  cases houtput : request.output with
  | none =>
      rw [houtput] at hpage
      cases hpage
      simp only [hplain, Option.map_none]
      rfl
  | some target =>
      rw [houtput] at hpage
      obtain ⟨hleads⟩ := hpage
      simp only [FileTree.writeFile_of_leads platform hleads, hplain, Option.map_none,
        platform.halves.stored_eq_self hplain]
      rfl

lemma ofMessages_eq (messages : List Message) :
    Ending.ofMessages messages
      = .status (if ∃ message ∈ messages, message.severity = .error then 1 else 0) := by
  rw [Ending.ofMessages]
  simp only [List.any_eq_true, decide_eq_true_eq]

/-- Markup that cannot be written is lost. -/
lemma losesMarkup_deliver
    (h : Targets platform.halves files request (finish request rendered.html) page log)
    {words : Text} (hwords : platform.halves.fault? (finish request rendered.html) = some words)
    (journal : Journal) :
    (platform.deliver files journal request rendered).LosesMarkup files page words := by
  rw [deliver_of_fault h hwords]
  exact ⟨rfl, rfl, fun path hp => FileTree.file?_put_of_mem hp,
    fun path hp => FileTree.file?_put_of_ne hp, rfl⟩

example :
    let request : RenderRequest := ⟨"d.json", none, some "o.html", false, none, none, false⟩
    let files : FileTree := [("o.html", Utf8.encode "old")]
    let report :=
      Platform.standard.deliver files [] request ⟨[Halves.standard.ofCode 0xD800], []⟩
    report.files.file? (.ofText "o.html") = some [] ∧ report.output = [] := by
  decide +kernel

section

variable (h : Targets platform.halves files request (finish request rendered.html) page log)
  (hplain : platform.halves.fault? (finish request rendered.html) = none) (journal : Journal)
include h hplain

/-- What is delivered, with its messages. -/
lemma deliver_eq :
    platform.deliver files journal request rendered
      = if rendered.messages.all Message.isWritable then
          ⟨.ofLog platform.halves rendered.messages log,
            if page.isNone then finish request rendered.html else [],
            platform.halves.spelled (messageLines (printable rendered.messages)),
            (files.put page (finish request rendered.html)).put log
              (platform.halves.stored (writeMessages rendered.messages)), journal⟩
        else
          ⟨.failure (.other (.badValue Text.tooLongToWrite)),
            if page.isNone then finish request rendered.html else [],
            platform.halves.spelled (messageLines (printable rendered.messages)),
            files.put page (finish request rendered.html), journal⟩ := by
  have hlog := h.toLog
  rw [platform.halves.stored_eq_self hplain] at hlog
  rw [deliver_of_plain h hplain, deliverMessages_eq hlog]

/-- Markup that can be written is delivered, whatever becomes of the messages. -/
lemma showsMarkup_deliver :
    (platform.deliver files journal request rendered).ShowsMarkup files
      (finish request rendered.html) page log := by
  have hpage : ∀ path ∈ page, ∀ target ∈ log, target.text ≠ path.text :=
    fun path hp target ht => (h.differ path hp target ht).symm
  rw [deliver_eq h hplain]
  split
  · refine ⟨rfl, fun path hp => ?_, fun path hp hl => ?_⟩
    · rw [FileTree.file?_put_of_ne (hpage path hp), FileTree.file?_put_of_mem hp]
    · rw [FileTree.file?_put_of_ne hl, FileTree.file?_put_of_ne hp]
  · exact ⟨rfl, fun path hp => FileTree.file?_put_of_mem hp,
      fun path hp _ => FileTree.file?_put_of_ne hp⟩

/-- A message whose line cannot be written breaks the run off. -/
lemma breaksOff_deliver
    (hunwritable : ∃ message ∈ rendered.messages, message.isWritable = false) :
    (platform.deliver files journal request rendered).BreaksOff platform.halves files
      rendered.messages log := by
  have hall : ¬ rendered.messages.all Message.isWritable = true := by
    obtain ⟨message, hm, hw⟩ := hunwritable
    intro hall
    rw [List.all_eq_true.mp hall message hm] at hw
    exact nomatch hw
  rw [deliver_eq h hplain, if_neg hall]
  exact ⟨rfl, fun path hp => FileTree.file?_put_of_ne fun target ht => h.differ target ht path hp,
    rfl⟩

variable (hwritable : ∀ message ∈ rendered.messages, message.isWritable = true)
include hwritable

lemma deliver_of_writable :
    platform.deliver files journal request rendered
      = ⟨.ofLog platform.halves rendered.messages log,
          if page.isNone then finish request rendered.html else [],
          platform.halves.spelled (messageLines rendered.messages),
          (files.put page (finish request rendered.html)).put log
            (platform.halves.stored (writeMessages rendered.messages)), journal⟩ := by
  have hprintable : printable rendered.messages = rendered.messages :=
    List.takeWhile_eq_self_iff.mpr hwritable
  rw [deliver_eq h hplain, if_pos (List.all_eq_true.mpr hwritable), hprintable]

/-- Messages that can be written are delivered. -/
lemma showsMessages_deliver
    (hspoken : ∀ message ∈ rendered.messages, platform.halves.fault? message.text = none) :
    (platform.deliver files journal request rendered).ShowsMessages rendered.messages log := by
  have hwritten := (fault?_writeMessages platform.halves rendered.messages).mpr hspoken
  have hlines := (fault?_messageLines platform.halves rendered.messages).mpr hspoken
  rw [deliver_of_writable h hplain journal hwritable]
  refine ⟨platform.halves.spelled_eq_self hlines, fun path hp => ?_, ?_⟩
  · rw [FileTree.file?_put_of_mem hp, platform.halves.stored_eq_self hwritten]
  · simp only [Ending.ofLog, hwritten, ofMessages_eq]

/-- Messages that cannot be written as octets are spelled out, and lost to their file. -/
lemma spellsMessages_deliver
    (hhalf : ∃ message ∈ rendered.messages, platform.halves.fault? message.text ≠ none) :
    (platform.deliver files journal request rendered).SpellsMessages platform.halves
      rendered.messages log := by
  have hunwritten : platform.halves.fault? (writeMessages rendered.messages) ≠ none := by
    rw [Ne, fault?_writeMessages]
    push Not
    exact hhalf
  obtain ⟨words, hwords⟩ := Option.ne_none_iff_exists'.mp hunwritten
  rw [deliver_of_writable h hplain journal hwritable]
  refine ⟨rfl, fun path hp => ?_, fun path hp => ⟨words, hwords, ?_⟩, fun hlog => ?_⟩
  · rw [FileTree.file?_put_of_mem hp, platform.halves.stored_eq_nil hwords]
    rfl
  · obtain rfl : log = some path := hp
    simp only [Ending.ofLog, hwords]
  · subst hlog
    exact ofMessages_eq _

end

end

/-! ### Runs -/

/-- A document with the table, on a line with this number. -/
def tableDocument (number : Text) : Text :=
  "- kind: table\n  lnb: " ++ number ++ "\n  rows: [[a]]\n  alignments: []\n"

/-- The file with the document. -/
def tableFiles (number : Text) : FileTree := [("d.yml", Utf8.encode (tableDocument number))]

/-- The request to render it. -/
def tableRequest (output messages : Option Text) : RenderRequest :=
  ⟨"d.yml", none, output, false, none, messages, false⟩

/-- The data in it. -/
def tableData (line : Int) : Data :=
  .arr [.obj [("kind", .str "table"), ("lnb", .int line), ("rows", .arr [.arr [.str "a"]]),
    ("alignments", .arr [])]]

/-- The table. -/
def tableBlock (line : Int) : Block := .table { line } ⟨none, [["a"]], []⟩

/-- The warning about it. -/
def tableMessage (line : Int) : Message :=
  ⟨.warning, line, "table body row 1 has 1 cells, expected 0"⟩

/-- What it is rendered to. -/
def tableRendered (line : Int) : Rendered :=
  ⟨"<table>\n<colgroup>\n</colgroup>\n<tr>\n<td>a</td>\n</tr>\n</table>\n", [tableMessage line]⟩

/-- A text is read as the data of the table. -/
def readsTable (line : Int) (text : Text) : Bool :=
  match Yaml.read text with
  | .ok (.arr [.obj [(first, .str kind), (second, .int n), (third, .arr [.arr [.str cell]]),
      (fourth, .arr [])]]) =>
    n = line ∧ [first, kind, second, third, cell, fourth]
      = ["kind".toList, "table", "lnb", "rows", "a", "alignments"]
  | _ => false

lemma yaml_of_readsTable {line : Int} {text : Text} (h : readsTable line text = true) :
    Platform.standard.yaml text = .ok (tableData line) := by
  unfold readsTable at h
  split at h
  · rename_i hread
    simp only [decide_eq_true_eq, List.cons.injEq, and_true] at h
    obtain ⟨rfl, rfl, rfl, rfl, rfl, rfl, rfl⟩ := h
    exact Platform.standard_yaml_eq_ok hread
  · exact nomatch h

lemma document_table (registry : Registry) (line : Int) :
    Schema.document registry (documentData (tableData line)) = .ok [tableBlock line] := by
  have htable : Schema.blockOf registry .table
      [("kind", .str "table"), ("lnb", .int line), ("rows", .arr [.arr [.str "a"]]),
        ("alignments", .arr [])] = .ok (tableBlock line) := by
    rw [Schema.blockOf] <;> first | rfl | exact fun h => BlockKind.noConfusion h
  have htag : Schema.taggedBlock registry
      [("kind", .str "table"), ("lnb", .int line), ("rows", .arr [.arr [.str "a"]]),
        ("alignments", .arr [])] = .ok (tableBlock line) := by
    rw [Schema.taggedBlock]
    show (Schema.blockOf registry .table _).within _ = _
    rw [htable]
    rfl
  have hdata : documentData (tableData line) = .obj [("blocks", tableData line)] := rfl
  rw [hdata, Schema.document, Schema.blocksIn, if_pos rfl, tableData, Schema.blockList,
    Schema.blockItems, Schema.block, htag, Schema.blockItems]
  rfl

lemma renderBlocks_table (line : Int) :
    renderBlocks (.ofOptions {}) [tableBlock line] [] = (.ok (tableRendered line), []) := by
  have hbody : "<table>\n" ++ Grid.body (Inline.Converter.standard []) ⟨none, [["a"]], []⟩
      = (tableRendered line).html := by
    show _ = (tableRendered 0).html
    decide +kernel
  have hblock : renderBlock (.ofOptions {}) (tableBlock line) []
      = (.ok (Rendered.part ⟨"<table>\n" ++ Grid.body (Inline.Converter.standard [])
          ⟨none, [["a"]], []⟩, [tableMessage line]⟩), []) := rfl
  rw [hbody] at hblock
  exact (renderBlocks_eq_ok (inOrder_ofOptions {})).mpr
    ⟨[tableRendered line], evaluates_singleton.mpr ⟨_, rfl, hblock⟩, rfl⟩

/-- The document is loaded. -/
lemma loadDocument_table {number : Text} {line : Int}
    (hreads : readsTable line (tableDocument number) = true)
    (hfile : (tableFiles number).read (.ofText "d.yml") = .ok (tableDocument number)) :
    Platform.standard.loadDocument [] (tableFiles number) (.ofText "d.yml")
      = .ok [tableBlock line] := by
  have hthere : (tableFiles number).exists? (.ofText "d.yml") = .ok true := rfl
  have hformat : formatOf (.ofText "d.yml") = .yaml := rfl
  simp only [Platform.loadDocument, hthere, hfile, Platform.readDocument, Platform.readData,
    hformat, yaml_of_readsTable hreads, document_table]
  rfl

/-- The document is rendered. -/
lemma renders_table {number : Text} {line : Int}
    (hload : Platform.standard.loadDocument [] (tableFiles number) (.ofText "d.yml")
      = .ok [tableBlock line]) (output messages : Option Text) :
    (Request.render (tableRequest output messages)).Renders .standard [] (tableFiles number) []
      {} [tableBlock line] (tableRendered line) := by
  have hsequential : renderBlocksAt (.ofOptions {}) (Platform.standard.pool.schedule .sequential)
        [tableBlock line] []
      = renderBlocks (.ofOptions {}) [tableBlock line] [] :=
    congrFun (renderBlocksAt_const (.ofOptions {}) .sequential [tableBlock line]) []
  exact ⟨hload, rfl, congrArg Prod.fst (hsequential.trans (renderBlocks_table line))⟩

/-- A number of more digits than can be written. -/
def wideLine : Int := 16 ^ 3600

/-- It has fewer of them on the base of sixteen. -/
def wideNumber : Text := "0x1" ++ List.replicate 3600 '0'

end BlockTree.CommandLine
