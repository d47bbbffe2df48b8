/-
# What an accepted command line holds

Reading a command line takes up options one token after another, and refuses a text that is no
choice for its option.  So at every step the options found are options of the grammar, and their
texts are among the choices (`State.Fits`, `State.Fits.advance`), and this is what an accepted
command line ends with: `Invocation.mem_of_ofWords` says that the log level, the format and the
language of an invocation are listed ones, as far as they are texts.
-/
import Workspace.Cli.Invocation
namespace Workspace.Cli

/-! ## 1. Options in words -/

namespace Grammar

variable {g : Grammar}

theorem mem_of_mem_spellings {spelling : String} {o : Opt} (h : (spelling, o) ∈ g.spellings) :
    o ∈ g.options := by
  obtain ⟨o', ho', hmem⟩ := List.mem_flatMap.mp h
  obtain ⟨_, -, heq⟩ := List.mem_map.mp hmem
  cases heq
  exact ho'

theorem mem_of_option? {spelling : String} {o : Opt} (h : g.option? spelling = some o) :
    o ∈ g.options := by
  obtain ⟨_, _, heq, -⟩ := List.lookup_eq_some_iff.mp h
  exact mem_of_mem_spellings (heq ▸ List.mem_append_right _ List.mem_cons_self)

/-- A word that is taken for an option is taken for an option of the grammar. -/
theorem mem_of_mem_candidates {word spelling : String} {o : Opt} {long : Bool}
    {attached : Option String} (h : (spelling, .option o long attached) ∈ g.candidates word) :
    o ∈ g.options := by
  unfold candidates at h
  split at h
  · obtain ⟨⟨s, o'⟩, hmem, heq⟩ := List.mem_map.mp h
    cases heq
    exact mem_of_mem_spellings (List.mem_filter.mp hmem).1
  · obtain ⟨⟨s, o'⟩, hmem, heq⟩ := List.mem_map.mp h
    cases heq
    exact mem_of_mem_spellings (List.mem_filter.mp hmem).1

/-- The role of a word that spells no option in full. -/
theorem mem_of_roleOfOther {word : String} {o : Opt} {long : Bool} {attached : Option String}
    (h : g.roleOfOther word = .ok (.option o long attached)) : o ∈ g.options := by
  unfold roleOfOther at h
  split at h
  · split at h <;> cases h
  · next spelling role heq =>
    cases h
    exact mem_of_mem_candidates (heq ▸ List.mem_singleton_self _)
  · cases h

/-- The role of a word. -/
theorem mem_of_roleOf {word : String} {o : Opt} {long : Bool} {attached : Option String}
    (h : g.roleOf word = .ok (.option o long attached)) : o ∈ g.options := by
  unfold roleOf at h
  split at h
  · cases h
  · split at h
    · next ho =>
      cases h
      exact mem_of_option? ho
    · split at h
      · split at h
        · next ho =>
          cases h
          exact mem_of_option? ho
        · exact mem_of_roleOfOther h
      · exact mem_of_roleOfOther h

/-- The options among the tokens of a command line are options of the grammar. -/
theorem mem_of_mem_tokens {words : List String} {tokens : List Token}
    (h : g.tokens words = .ok tokens) {t : Token} (ht : t ∈ tokens) {o : Opt} {long : Bool}
    {attached : Option String} (hrole : t.role = .option o long attached) : o ∈ g.options := by
  induction words generalizing tokens with
  | nil =>
    cases h
    cases ht
  | cons word rest ih =>
    rw [Grammar.tokens] at h
    -- behind the separator every word is an operand
    split at h
    · cases h
      rcases List.mem_cons.mp ht with rfl | ht
      · cases hrole
      · obtain ⟨_, -, rfl⟩ := List.mem_map.mp ht
        cases hrole
    · split at h
      · cases h
      · next role hword =>
        cases hrest : g.tokens rest with
        | error e =>
          rw [hrest] at h
          cases h
        | ok ts =>
          rw [hrest] at h
          cases h
          rcases List.mem_cons.mp ht with rfl | ht
          · exact mem_of_roleOf (hword.trans (congrArg _ hrole))
          · exact ih hrest ht

end Grammar

/-- The options in a word of short options are options of the grammar. -/
theorem mem_of_cluster {g : Grammar} {o : Opt} (ho : o ∈ g.options) {cs : List Char}
    {given : List Given} {last : Option Opt} (h : cluster g o cs = .ok (given, last)) :
    (∀ x ∈ given, x.option ∈ g.options) ∧ ∀ o' ∈ last, o' ∈ g.options := by
  induction cs generalizing o given last with
  | nil =>
    unfold cluster at h
    -- an option with a value takes the rest of the word; a flag leaves it to the next letter
    split at h <;> cases h <;> simp [ho]
  | cons c cs ih =>
    unfold cluster at h
    split at h
    · cases h
      simp [ho]
    · split at h
      · cases h
      · next next hnext =>
        cases hrest : cluster g next cs with
        | error e =>
          rw [hrest] at h
          cases h
        | ok result =>
          rw [hrest] at h
          cases h
          obtain ⟨hgiven, hlast⟩ := ih (g.mem_of_option? hnext) hrest
          refine ⟨fun x hx => ?_, hlast⟩
          rcases List.mem_cons.mp hx with rfl | hx
          · exact ho
          · exact hgiven x hx

/-- The options in a word are options of the grammar. -/
theorem mem_of_optionsOf {g : Grammar} {o : Opt} (ho : o ∈ g.options) {long : Bool}
    {attached : Option String} {given : List Given} {last : Option Opt}
    (h : optionsOf g o long attached = .ok (given, last)) :
    (∀ x ∈ given, x.option ∈ g.options) ∧ ∀ o' ∈ last, o' ∈ g.options := by
  unfold optionsOf at h
  split at h
  · exact mem_of_cluster ho h
  · split at h
    · cases h
      simp [ho]
    · split at h
      · cases h
      · exact mem_of_cluster ho h

/-! ## 2. One token after the other -/

/-- An option of the grammar whose value, if it is a text, may be chosen. -/
structure Given.Fits (g : Grammar) (x : Given) : Prop where
  mem : x.option ∈ g.options
  chosen : ∀ choices text, x.option.purpose = .choice choices → x.value = some (.text text) →
    text ∈ choices

/-- What was found fits the grammar, and so do the options that wait. -/
structure State.Fits (g : Grammar) (s : State) : Prop where
  given : ∀ x ∈ s.found.given, x.Fits g
  waiting : ∀ w, s.waiting = some w → w.option ∈ g.options ∧ ∀ x ∈ w.before, x.option ∈ g.options

namespace State.Fits

variable {g : Grammar} {s s' : State}

theorem start : State.start.Fits g where
  given _ h := nomatch h
  waiting _ h := nomatch h

theorem of_given_eq (h : s.Fits g) (hgiven : s'.found.given = s.found.given)
    (hwaiting : s'.waiting = s.waiting) : s'.Fits g :=
  ⟨hgiven ▸ h.given, hwaiting ▸ h.waiting⟩

/-- An option that is taken up fits. -/
theorem give (h : s.Fits g) {x : Given} (hx : x.option ∈ g.options) (hs : s.give g x = .ok s') :
    s'.Fits g := by
  -- the option is put behind what was given, if its value is one of its choices
  have htaken (hchosen : ∀ choices text, x.option.purpose = .choice choices →
      x.value = some (.text text) → text ∈ choices) :
      State.Fits g
        { s with found := { s.found with given := s.found.given ++ [x] }, afterOperand := false } := by
    refine ⟨fun y hy => ?_, h.waiting⟩
    rcases List.mem_append.mp hy with hy | hy
    · exact h.given y hy
    · rw [List.mem_singleton.mp hy]
      exact ⟨hx, hchosen⟩
  unfold State.give at hs
  simp only at hs
  split at hs
  · cases hs
  · next choices text hpurpose hvalue =>
    split at hs
    · next hmem =>
      cases hs
      refine htaken fun choices' text' hpurpose' hvalue' => ?_
      cases hpurpose.symm.trans hpurpose'
      cases hvalue.symm.trans hvalue'
      exact hmem
    · cases hs
  · next hother =>
    cases hs
    exact htaken fun choices text hpurpose hvalue => (hother choices text hpurpose hvalue).elim

/-- Options that are taken up in turn fit. -/
theorem giveAll {given : List Given} (h : s.Fits g) (hgiven : ∀ x ∈ given, x.option ∈ g.options)
    (hs : State.giveAll g given s = .ok s') : s'.Fits g := by
  induction given generalizing s with
  | nil =>
    cases hs
    exact h
  | cons x rest ih =>
    unfold State.giveAll at hs
    split at hs
    · cases hs
    · next hx =>
      exact ih (h.give (hgiven x List.mem_cons_self) hx)
        (fun y hy => hgiven y (List.mem_cons_of_mem _ hy)) hs

/-- **One token keeps what was found fitting.** -/
theorem advance {t : Token} {last : Bool}
    (ht : ∀ o long attached, t.role = .option o long attached → o ∈ g.options) (h : s.Fits g)
    (hs : s.advance g t last = .ok s') : s'.Fits g := by
  unfold State.advance at hs
  split at hs
  -- the word is the value of the option that waits
  · next w hwaiting _ =>
    obtain ⟨hoption, hbefore⟩ := h.waiting w hwaiting
    have hnone : State.Fits g { s with waiting := none } :=
      { given := h.given, waiting := fun _ hw => by cases hw }
    refine hnone.giveAll (fun x hx => ?_) hs
    rcases List.mem_append.mp hx with hx | hx
    · exact hbefore x hx
    · rw [List.mem_singleton.mp hx]
      exact hoption
  · cases hs
  · cases hs
    refine h.of_given_eq ?_ ?_
    all_goals
      unfold State.takeOperand
      split <;> rfl
  · cases hs
    refine h.of_given_eq ?_ ?_
    all_goals
      unfold State.separate
      split
      · rfl
      · split <;> rfl
  · cases hs
    exact h.of_given_eq rfl rfl
  -- the options in a word are all taken up, or the last one waits for its value
  · next o long attached _ hrole =>
    unfold State.takeOptions at hs
    split at hs
    · cases hs
    · next given hoptions =>
      exact h.giveAll (mem_of_optionsOf (ht o long attached hrole) hoptions).1 hs
    · next given o' hoptions =>
      cases hs
      obtain ⟨hgiven, hlast⟩ := mem_of_optionsOf (ht o long attached hrole) hoptions
      refine ⟨h.given, fun w hw => ?_⟩
      cases hw
      exact ⟨hlast o' rfl, hgiven⟩

/-- **A whole command line keeps what was found fitting.** -/
theorem run {tokens : List Token} {r : Reading}
    (ht : ∀ t ∈ tokens, ∀ o long attached, t.role = .option o long attached → o ∈ g.options)
    (h : s.Fits g) (hr : s.run g tokens = .ok r) : ∀ x ∈ r.given, x.Fits g := by
  -- what fits so far still fits when the next token is taken up
  induction tokens generalizing s with
  | nil =>
    unfold State.run State.finish at hr
    split at hr
    · cases hr
    · split at hr
      · cases hr
        exact h.given
      · cases hr
  | cons t rest ih =>
    unfold State.run at hr
    split at hr
    · cases hr
    · next hs =>
      exact ih (fun t' ht' => ht t' (List.mem_cons_of_mem _ ht'))
        (h.advance (ht t List.mem_cons_self) hs) hr

/-- So do the words before the first operand. -/
theorem runToOperand {tokens : List Token} {r : Reading} {word : String} {words : List String}
    (ht : ∀ t ∈ tokens, ∀ o long attached, t.role = .option o long attached → o ∈ g.options)
    (h : s.Fits g) (hr : s.runToOperand g tokens = .ok (r, word, words)) :
    ∀ x ∈ r.given, x.Fits g := by
  induction tokens generalizing s with
  | nil => cases hr
  | cons t rest ih =>
    unfold State.runToOperand at hr
    split at hr
    · cases hr
      exact h.given
    · split at hr
      · cases hr
      · next hs =>
        exact ih (fun t' ht' => ht t' (List.mem_cons_of_mem _ ht'))
          (h.advance (ht t List.mem_cons_self) hs) hr

end State.Fits

theorem Grammar.fits_of_read {g : Grammar} {words : List String} {r : Reading}
    (h : g.read words = .ok r) : ∀ x ∈ r.given, x.Fits g := by
  unfold Grammar.read at h
  split at h
  · cases h
  · next tokens htokens =>
    exact State.Fits.start.run (fun t ht _ _ _ => g.mem_of_mem_tokens htokens ht) h

/-- The options before the first operand fit. -/
theorem Grammar.fits_of_readToOperand {g : Grammar} {words rest : List String} {r : Reading}
    {word : String} (h : g.readToOperand words = .ok (r, word, rest)) :
    ∀ x ∈ r.given, x.Fits g := by
  unfold Grammar.readToOperand at h
  split at h
  · cases h
  · next tokens htokens =>
    exact State.Fits.start.runToOperand (fun t ht _ _ _ => g.mem_of_mem_tokens htokens ht) h

/-! ## 3. Invocations -/

/-- The text of an option with a choice is one of the choices, if all options that have its spelling
offer the same. -/
theorem Reading.mem_of_value? {g : Grammar} {r : Reading} (h : ∀ x ∈ r.given, x.Fits g)
    {spelling text : String} {choices : List String}
    (hchoices : ∀ o ∈ g.options, o.spellings.contains spelling = true →
      o.purpose = .choice choices) (hvalue : r.value? spelling = some (.text text)) :
    text ∈ choices := by
  obtain ⟨x, hfind, hx⟩ := Option.bind_eq_some_iff.mp hvalue
  have hmem := h x (List.mem_reverse.mp (List.mem_of_find?_eq_some hfind))
  have hspelling := List.find?_some hfind
  exact hmem.chosen choices text (hchoices x.option hmem.mem hspelling) hx

/-- The arguments of a command that must be chosen, each with what there is to choose from. -/
def Command.choices : Command → List (Argument × List String)
  | exportNotebook _ format _ => [(format, ExportFormat.all.map ExportFormat.name)]
  | importNotebook _ _ language format _ =>
    (format, ExportFormat.all.map ExportFormat.name) ::
      language.toList.map fun language => (language, Language.listed.map Language.name)
  | _ => []

/-- The arguments of an invocation that must be chosen. -/
def Invocation.choices (i : Invocation) : List (Argument × List String) :=
  (i.logLevel, logLevels) :: i.command.choices

/-- The format of a command is listed, if it is a text. -/
theorem Reading.mem_of_format {g : Grammar} {r : Reading} (h : ∀ x ∈ r.given, x.Fits g)
    (hchoices : ∀ o ∈ g.options, o.spellings.contains "--format" = true →
      o.purpose = .choice (ExportFormat.all.map ExportFormat.name)) {text : String}
    (hformat : r.format = .text text) : text ∈ ExportFormat.all.map ExportFormat.name := by
  unfold Reading.format at hformat
  cases hvalue : r.value? "--format" with
  | none =>
    rw [hvalue] at hformat
    cases hformat
    decide
  | some argument =>
    rw [hvalue] at hformat
    cases hformat
    exact Reading.mem_of_value? h hchoices hvalue

/-- The log level is listed, if it is a text. -/
theorem Reading.mem_of_level {r : Reading} (h : ∀ x ∈ r.given, x.Fits programGrammar)
    {text : String}
    (hlevel : (r.value? "--log-level").getD (.text defaultLogLevel) = .text text) :
    text ∈ logLevels := by
  cases hvalue : r.value? "--log-level" with
  | none =>
    rw [hvalue] at hlevel
    cases hlevel
    decide
  | some argument =>
    rw [hvalue] at hlevel
    cases hlevel
    exact Reading.mem_of_value? h (by decide) hvalue

/-- The choices of a command that was read are listed ones. -/
theorem Reading.mem_of_command {name : CommandName} {r : Reading}
    (h : ∀ x ∈ r.given, x.Fits name.grammar) {choice : Argument × List String}
    (hmem : choice ∈ (r.command name).choices) {text : String} (htext : choice.1 = .text text) :
    text ∈ choice.2 := by
  cases name with
  | ls => cases hmem
  | status => cases hmem
  | mkdirs => cases hmem
  | rm => cases hmem
  | exportNotebook =>
    rw [List.mem_singleton.mp hmem] at htext ⊢
    exact Reading.mem_of_format h (by decide) htext
  | importNotebook =>
    rcases List.mem_cons.mp hmem with rfl | hmem
    · exact Reading.mem_of_format h (by decide) htext
    · obtain ⟨language, hlanguage, rfl⟩ := List.mem_map.mp hmem
      have hvalue : r.value? "--language" = some language := Option.mem_toList.mp hlanguage
      have hchoices : ∀ o ∈ CommandName.importNotebook.grammar.options,
          o.spellings.contains "--language" = true →
            o.purpose = .choice (Language.listed.map Language.name) := by decide
      cases htext
      exact Reading.mem_of_value? h hchoices hvalue

/-- **What an accepted command line chooses is listed**, as far as it is a text. -/
theorem Invocation.mem_of_ofWords {words : List String} {i : Invocation}
    (h : Invocation.ofWords words = .ok i) {choice : Argument × List String}
    (hmem : choice ∈ i.choices) {text : String} (htext : choice.1 = .text text) :
    text ∈ choice.2 := by
  unfold Invocation.ofWords at h
  -- the words are read twice: by the program up to the command, and by the command behind it
  cases hgeneral : programGrammar.readToOperand words with
  | error exit =>
    rw [hgeneral] at h
    cases h
  | ok result =>
    obtain ⟨general, word, rest⟩ := result
    rw [hgeneral] at h
    cases hname : commandOf word with
    | error exit => simp [hname, bind, Except.bind] at h
    | ok name =>
      cases hspecial : name.grammar.read rest with
      | error exit => simp [hname, hspecial, bind, Except.bind] at h
      | ok special =>
        simp only [hname, hspecial, bind, Except.bind] at h
        split at h
        · cases h
          rcases List.mem_cons.mp hmem with rfl | hmem
          · exact Reading.mem_of_level (Grammar.fits_of_readToOperand hgeneral) htext
          · exact Reading.mem_of_command (Grammar.fits_of_read hspecial) hmem htext
        · cases h

end Workspace.Cli
