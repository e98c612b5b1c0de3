import Affordance.Handler.Template
import Affordance.Proofs.Handler.Code
import Affordance.Proofs.Tool.Naming
import Affordance.Proofs.Tool.Parameters

/-!
# What handlers from a template read

  * `assignment`: the guarded assignment of one parameter to one input, as lexemes.
    `reads_fillLine` says that the line that fills an input is one.
  * `silent_pressLines`, `silent_endLines`: the other lines do not mention the parameters. Every
    line ends outside of words and texts, so the whole body is read line by line
    (`lexemes_templateHandler`).
  * **`handler_agrees_with_schema`**: so a proposed tool's handler consists of one guarded
    assignment for each parameter of the tool's schema, in the order of the schema, and of code
    that does not mention the parameters at all.
-/

namespace Affordance

open Affordance.Text
open Affordance.Code

/-! ## 1. Assignments -/

/-- A parameter that is read. -/
def readLexemes (key : String) : List Lexeme :=
  [.word parametersName, .sign '['] ++ [.text key.toList] ++ [.sign ']']

/-- The guarded assignment of a parameter to an input: if the parameter is given, the function
    that fills the input is called with the input's selectors and the parameter. -/
def assignment (key : String) (e : Element) : List Lexeme :=
  [.word "if".toList, .sign '('] ++ readLexemes key ++
  [.sign '!', .sign '=', .sign '=', .word "undefined".toList, .sign ')',
    .word e.setFunction.toList, .sign '('] ++
  (.sign '[' :: listLexemes e.selectorsTried ++ [.sign ']']) ++ [.sign ','] ++
  readLexemes key ++ [.sign ')', .sign ';']

/-- A name in snake case is written as it is. -/
theorem written_of_snakeName (asciiOnly : Bool) {key : String} (h : SnakeName key.toList) :
    written asciiOnly key = key.toList := by
  have hchar : ∀ c ∈ key.toList, Json.renderChar asciiOnly c = [c] := by
    have hall : ∀ n < 128, (isSnakeChar (Char.ofNat n) = true ∨ Char.ofNat n = '_') →
        Json.renderChar asciiOnly (Char.ofNat n) = [Char.ofNat n] := by
      cases asciiOnly <;> decide +kernel
    intro c hc
    have hascii : c.toNat < 128 := by
      rcases h.chars c hc with hsnake | rfl
      · simp only [isSnakeChar, isLowerAscii, isDigitAscii, Bool.or_eq_true, Bool.and_eq_true,
          decide_eq_true_eq] at hsnake
        omega
      · decide
    have hc' := hall c.toNat hascii
    rw [Char.ofNat_toNat] at hc'
    exact hc' (h.chars c hc)
  rw [written, List.flatMap_congr hchar, List.flatMap_singleton']

theorem reads_parameter {key : String} (h : SnakeName key.toList) :
    Reads (.code []) (parameter key).toList (readLexemes key) (.code []) := by
  have hopen : Reads (.code []) "params[".toList [.word parametersName, .sign '['] (.code []) := by
    decide
  have hkey := reads_renderText true key
  have hclose : Reads (.code []) "]".toList [.sign ']'] (.code []) := by decide
  rw [written_of_snakeName true h] at hkey
  have hquoted : (Json.quoteAscii key).toList = Json.renderText true key := String.toList_ofList
  rw [parameter, String.toList_append, String.toList_append, hquoted, readLexemes]
  exact (hopen.append hkey).append hclose

theorem reads_setFunction (e : Element) :
    Reads (.code []) (e.setFunction.toList ++ "(".toList)
      [.word e.setFunction.toList, .sign '('] (.code []) := by
  unfold Element.setFunction
  split
  · decide
  · split <;> decide

theorem reads_setCall {key : String} (h : SnakeName key.toList) (e : Element) :
    Reads (.code []) (setCall e (parameter key)).toList
      ([.word e.setFunction.toList, .sign '('] ++
        (.sign '[' :: listLexemes e.selectorsTried ++ [.sign ']']) ++ [.sign ','] ++
        readLexemes key ++ [.sign ')']) (.code []) := by
  have hcomma : Reads (.code []) ", ".toList [.sign ','] (.code []) := by decide
  have hclose : Reads (.code []) ")".toList [.sign ')'] (.code []) := by decide
  rw [setCall]
  simp only [String.toList_append]
  exact ((((reads_setFunction e).append (reads_codeList _)).append hcomma).append
    (reads_parameter h)).append hclose

/-- **The line that fills an input is the guarded assignment of its parameter.** -/
theorem reads_fillLine {key : String} (h : SnakeName key.toList) (e : Element) :
    Reads (.code []) (fillLine key e).toList (assignment key e) (.code []) := by
  have hopen : Reads (.code []) "  if (".toList [.word "if".toList, .sign '('] (.code []) := by
    decide
  have hguard : Reads (.code []) " !== undefined) ".toList
      [.sign '!', .sign '=', .sign '=', .word "undefined".toList, .sign ')'] (.code []) := by
    decide
  have hclose : Reads (.code []) ";".toList [.sign ';'] (.code []) := by decide
  have hline := (((hopen.append (reads_parameter h)).append hguard).append
    (reads_setCall h e)).append hclose
  rw [fillLine]
  simp only [String.toList_append]
  simpa [assignment] using hline

/-- An assignment reads its parameter twice, for the guard and for the value. -/
theorem parametersRead_assignment (key : String) (e : Element) (rest : List Lexeme) :
    parametersRead (assignment key e ++ rest) =
      some key.toList :: some key.toList :: parametersRead rest := by
  have hread : ∀ ls, parametersRead (readLexemes key ++ ls) =
      some key.toList :: parametersRead ls := fun ls => rfl
  have hif : .word parametersName ∉ [Lexeme.word "if".toList, .sign '('] := by decide
  have hguard : .word parametersName ∉ [Lexeme.sign '!', .sign '=', .sign '=',
      .word "undefined".toList, .sign ')', .word e.setFunction.toList, .sign '('] := by
    unfold Element.setFunction
    split
    · decide
    · split <;> decide
  have hlist : .word parametersName ∉
      (Lexeme.sign '[' :: listLexemes e.selectorsTried ++ [.sign ']']) := by
    simp [word_not_mem_listLexemes]
  have hcomma : .word parametersName ∉ [Lexeme.sign ','] := by simp
  have hclose : .word parametersName ∉ [Lexeme.sign ')', .sign ';'] := by simp
  have hsplit : assignment key e ++ rest = [.word "if".toList, .sign '('] ++ (readLexemes key ++
      ([.sign '!', .sign '=', .sign '=', .word "undefined".toList, .sign ')',
        .word e.setFunction.toList, .sign '('] ++
      ((.sign '[' :: listLexemes e.selectorsTried ++ [.sign ']']) ++ ([.sign ','] ++
      (readLexemes key ++ ([.sign ')', .sign ';'] ++ rest)))))) := by
    simp only [assignment, List.append_assoc]
  rw [hsplit, parametersRead_append hif, hread, parametersRead_append hguard,
    parametersRead_append hlist, parametersRead_append hcomma, hread,
    parametersRead_append hclose]

/-! ## 2. Lines that read no parameter -/

/-- A line that ends outside of words and texts and does not mention the parameters. -/
def Silent (line : String) : Prop :=
  Reads (.code []) line.toList (lexemes line.toList) (.code []) ∧
    .word parametersName ∉ lexemes line.toList

instance (line : String) : Decidable (Silent line) :=
  inferInstanceAs (Decidable (_ ∧ _))

theorem silent_of_reads {line : String} {ls : List Lexeme}
    (h : Reads (.code []) line.toList ls (.code [])) (hnone : .word parametersName ∉ ls) :
    Silent line := by
  rw [Silent, h.lexemes]
  exact ⟨h, hnone⟩

/-- The line that presses a trigger. -/
theorem silent_press (t : Element) : Silent ("  " ++ submitCall t ++ ";") := by
  have hopen : Reads (.code []) ("  ".toList ++ "__afcClick(".toList)
      [.word "__afcClick".toList, .sign '('] (.code []) := by decide
  have hclose : Reads (.code []) (")".toList ++ ";".toList) [.sign ')', .sign ';'] (.code []) := by
    decide
  have hline := (hopen.append (reads_codeList t.pressList)).append hclose
  have hchars : ("  " ++ submitCall t ++ ";").toList = "  ".toList ++ "__afcClick(".toList ++
      (codeList t.pressList).toList ++ (")".toList ++ ";".toList) := by
    simp only [submitCall, String.toList_append, List.append_assoc]
  rw [← hchars] at hline
  refine silent_of_reads hline ?_
  have hname : parametersName ≠ "__afcClick".toList := by decide
  simpa [word_not_mem_listLexemes] using hname

/-- The line that reports success. -/
theorem silent_success (description : String) :
    Silent ("  return \x7b success: true, message: " ++ Json.quote description ++ " \x7d;") := by
  have hopen : Reads (.code []) "  return \x7b success: true, message: ".toList
      [.word "return".toList, .sign '\x7b', .word "success".toList, .sign ':',
        .word "true".toList, .sign ',', .word "message".toList, .sign ':'] (.code []) := by
    decide
  have hclose : Reads (.code []) " \x7d;".toList [.sign '\x7d', .sign ';'] (.code []) := by decide
  have hquoted : (Json.quote description).toList = Json.renderText false description :=
    String.toList_ofList
  have hline := (hopen.append (reads_renderText false description)).append hclose
  rw [← hquoted, ← String.toList_append, ← String.toList_append] at hline
  refine silent_of_reads hline ?_
  simp only [List.mem_append, List.mem_singleton, not_or]
  exact ⟨⟨by decide, by simp⟩, by decide⟩

/-- The lines that press the trigger. -/
theorem silent_pressLines (inputs : List Element) (trigger : Option Element) :
    ∀ line ∈ pressLines inputs trigger, Silent line := by
  intro line hline
  cases trigger with
  | none => exact absurd hline List.not_mem_nil
  | some t =>
    rcases List.mem_append.mp hline with hpause | hpress
    · have hpause : line = "  await new Promise((r) => setTimeout(r, 100));" := by
        by_cases hempty : inputs.isEmpty = true
        · simp [hempty] at hpause
        · simpa [hempty] using hpause
      rw [hpause]
      decide
    · obtain rfl := List.mem_singleton.mp hpress
      exact silent_press t

/-- The lines that end a body. -/
def endLines (description : String) : List String :=
  ["  return \x7b success: true, message: " ++ Json.quote description ++ " \x7d;",
   "\x7d catch (err) \x7b",
   "  return \x7b success: false, message: err instanceof Error ? err.message : String(err) \x7d;",
   "\x7d"]

theorem silent_endLines (description : String) :
    ∀ line ∈ endLines description, Silent line := by
  intro line hline
  rcases List.mem_cons.mp hline with rfl | hrest
  · exact silent_success description
  · have hall : ∀ l ∈ ["\x7d catch (err) \x7b",
        "  return \x7b success: false, message: err instanceof Error ? err.message : " ++
          "String(err) \x7d;", "\x7d"], Silent l := by decide
    exact hall line hrest

/-! ## 3. Whole bodies -/

/-- What a body consists of: its opening line, a line for each keyed input, and lines that read
    no parameter. -/
theorem templateLines_eq (inputs : List Element) (trigger : Option Element)
    (description : String) :
    templateLines inputs trigger description =
      ["try \x7b"] ++ (InputSchema.keyed inputs).map (fun f => fillLine f.1 f.2) ++
        (pressLines inputs trigger ++ endLines description) := by
  simp [templateLines, endLines]

theorem snakeName_of_mem_keyed {inputs : List Element} {f : String × Element}
    (h : f ∈ InputSchema.keyed inputs) : SnakeName f.1.toList := by
  obtain ⟨⟨e, key⟩, hmem, hkey⟩ := List.mem_filterMap.mp h
  obtain ⟨k, rfl, rfl⟩ := Option.map_eq_some_iff.mp hkey
  exact snakeName_key (List.of_mem_zip hmem).2

/-- **The lexemes of a body from a template**: one guarded assignment for each keyed input, and
    around them code that does not mention the parameters. -/
theorem lexemes_templateHandler (p : Proposal) :
    ∃ opening closing,
      lexemes (templateHandler p).toList =
        opening ++ (InputSchema.keyed p.candidate.inputs).flatMap (fun f => assignment f.1 f.2) ++
          closing ∧
      .word parametersName ∉ opening ∧ .word parametersName ∉ closing := by
  have hopen : Silent "try \x7b" := by decide
  have hrest : ∀ line ∈ pressLines p.candidate.inputs p.candidate.trigger ++
      endLines p.description, Silent line := by
    intro line hline
    rcases List.mem_append.mp hline with hline | hline
    · exact silent_pressLines _ _ line hline
    · exact silent_endLines _ line hline
  have hfill : ∀ f ∈ InputSchema.keyed p.candidate.inputs,
      lexemes (fillLine f.1 f.2).toList = assignment f.1 f.2 := fun f hf =>
    (reads_fillLine (snakeName_of_mem_keyed hf) f.2).lexemes
  refine ⟨lexemes "try \x7b".toList,
    (pressLines p.candidate.inputs p.candidate.trigger ++ endLines p.description).flatMap
      (fun line => lexemes line.toList), ?_, hopen.2, ?_⟩
  · have hlines : ∀ s ∈ (templateLines p.candidate.inputs p.candidate.trigger
        p.description).map String.toList, Reads (.code []) s (lexemes s) (.code []) := by
      intro s hs
      obtain ⟨line, hline, rfl⟩ := List.mem_map.mp hs
      rw [templateLines_eq, List.mem_append, List.mem_append] at hline
      rcases hline with (hline | hline) | hline
      · obtain rfl := List.mem_singleton.mp hline
        exact hopen.1
      · obtain ⟨f, hf, rfl⟩ := List.mem_map.mp hline
        rw [hfill f hf]
        exact reads_fillLine (snakeName_of_mem_keyed hf) f.2
      · exact (hrest line hline).1
    have hbody : (templateHandler p).toList = joinChars ['\n'] ((templateLines p.candidate.inputs
        p.candidate.trigger p.description).map String.toList) := String.toList_ofList
    rw [hbody, (reads_lines hlines).lexemes, templateLines_eq]
    simp only [List.map_append, List.flatMap_append, List.flatMap_map, List.flatMap_singleton]
    rw [List.flatMap_congr hfill]
  · intro hmem
    obtain ⟨line, hline, hin⟩ := List.mem_flatMap.mp hmem
    exact (hrest line hline).2 hin

/-- Assignments read their parameters, each of them twice. -/
theorem parametersRead_assignments (rest : List Lexeme) : ∀ fields : List (String × Element),
    parametersRead (fields.flatMap (fun f => assignment f.1 f.2) ++ rest) =
      fields.flatMap (fun f => [some f.1.toList, some f.1.toList]) ++ parametersRead rest
  | [] => rfl
  | f :: fields => by
    rw [List.flatMap_cons, List.append_assoc, parametersRead_assignment,
      parametersRead_assignments rest fields]
    rfl

theorem parametersRead_eq_nil {ls : List Lexeme} (h : .word parametersName ∉ ls) :
    parametersRead ls = [] := by
  have happend := parametersRead_append h []
  rwa [List.append_nil] at happend

/-! ## 4. Handlers and schemas -/

/-- **The schema of any inputs and the handler of any proposed tool agree.** The parameters have
    the keys that the inputs get in one pass, in order and all different, and the required ones
    are those of the required inputs. The handler of a proposed tool consists of the guarded
    assignment of each parameter to its input, in the order of the schema, between pieces of code
    that do not mention the parameters; so it reads each parameter for the guard and for the
    value of its own assignment, and reads nothing else of them. -/
theorem handler_agrees_with_schema :
    (∀ inputs : List Element,
      (parameterKeys inputs).length = inputs.length ∧
      (InputSchema.of inputs).properties.map (·.1) = (parameterKeys inputs).reduceOption ∧
      ((InputSchema.of inputs).properties.map (·.1)).Nodup ∧
      (InputSchema.of inputs).required =
        (inputs.zip (parameterKeys inputs)).filterMap fun (e, key) =>
          if e.isRequired then key else none) ∧
    ∀ (config : Option Config) (assessStability : Bool) (components : List Component),
      ∀ p ∈ propose config assessStability components,
        let fields := InputSchema.keyed p.candidate.inputs
        p.schema.properties = fields.map (fun f => (f.1, f.2.property)) ∧
        (∃ opening closing,
          lexemes (templateHandler p).toList =
            opening ++ fields.flatMap (fun f => assignment f.1 f.2) ++ closing ∧
          .word parametersName ∉ opening ∧ .word parametersName ∉ closing) ∧
        parametersRead (lexemes (templateHandler p).toList) =
          p.schema.properties.flatMap fun f => [some f.1.toList, some f.1.toList] := by
  refine ⟨fun inputs => ⟨length_keysFrom inputs [], InputSchema.properties_keys inputs, ?_,
    InputSchema.required_eq inputs⟩, fun config assessStability components p hp => ?_⟩
  · rw [InputSchema.properties_keys]
    exact (keysFrom_new inputs []).1
  · have hschema : p.schema.properties =
        (InputSchema.keyed p.candidate.inputs).map fun f => (f.1, f.2.property) := by
      obtain ⟨before, after, hsplit⟩ := List.append_of_mem hp
      obtain ⟨a, -, -, rfl⟩ := proposalsFrom_split assessStability _ [] 1 before hsplit
      show (InputSchema.of a.candidate.inputs).properties = _
      rw [InputSchema.of_eq_keyed]
      rfl
    obtain ⟨opening, closing, hbody, hopening, hclosing⟩ := lexemes_templateHandler p
    refine ⟨hschema, ⟨opening, closing, hbody, hopening, hclosing⟩, ?_⟩
    rw [hbody, List.append_assoc, parametersRead_append hopening, parametersRead_assignments,
      parametersRead_eq_nil hclosing, List.append_nil, hschema, List.flatMap_map]

/-- Three inputs for addresses and a button. The third input's own key is the one that the second
    input gets. -/
def threeEmails : Component where
  name := "Page"
  kind := .form
  elements := [
    { tag := .input, name := some "email", validation := ["required"] },
    { tag := .input, name := some "Email", validation := ["required"] },
    { tag := .input, id := some "email_2" },
    { tag := .button, label := some "Invite" }]

theorem handler_agrees_with_schema_emails :
    ∃ p ∈ propose none false [threeEmails],
      p.schema.properties.map (·.1) = ["email", "email_2", "email_2_2"] ∧
      p.schema.required = ["email", "email_2"] ∧
      parametersRead (lexemes (templateHandler p).toList) =
        ["email", "email", "email_2", "email_2", "email_2_2", "email_2_2"].map
          fun key => some key.toList := by
  have hschemas : ∀ p ∈ propose none false [threeEmails],
      p.schema.properties.map (·.1) = ["email", "email_2", "email_2_2"] ∧
      p.schema.required = ["email", "email_2"] := by decide +kernel
  obtain ⟨p, hp⟩ : ∃ p, p ∈ propose none false [threeEmails] :=
    List.exists_mem_of_ne_nil _ (by decide +kernel)
  obtain ⟨hkeys, hrequired⟩ := hschemas p hp
  have hreads := (handler_agrees_with_schema.2 none false [threeEmails] p hp).2.2
  have hpairs : (p.schema.properties.flatMap fun f => [some f.1.toList, some f.1.toList]) =
      (p.schema.properties.map (·.1)).flatMap fun key => [some key.toList, some key.toList] :=
    by rw [List.flatMap_map]
  rw [hpairs, hkeys] at hreads
  exact ⟨p, hp, hkeys, hrequired, hreads⟩

end Affordance
