import Abacus.Console
import Abacus.Proofs.Commands

/-!
# Conversations on the console

A conversation is what a session replies to the lines that are read, and reading stops at the first
`/exit`, at the end of the input, or in front of the first line that is no UTF-8. It ends with the
farewell in the first two cases and without it in the third.

- **Lines** (`Console.Cut`, `Console.lines_eq_iff`): where an input is cut, and what of it belongs
  to no line. There is one way to cut an input, and it is the one that the console takes.
- **Reading** (`Console.Heard`): which lines are read, and why no more of them are. Every input has
  such an account, and what comes behind `/exit` is no part of it.
- **Shown texts** (`Text.isPlain`): nothing that a session shows before its farewell looks like one.
  This depends on the names in the store, which are letters only (`Store.Lettered`).
- **Conversations** (`Console.run_heard`): the output is the texts shown for the lines that are
  read, and then the farewell, once.
-/

namespace Abacus

namespace Console

/-! ### Lines -/

/-- How an input is cut into lines: every line feed ends one, a carriage return in front of it goes
with it, and what stands behind the last line feed is a line unless there is nothing. There, and
anywhere else within a line, a carriage return is a byte like others. -/
inductive Cut : List UInt8 → List (List UInt8) → Prop where
  | nothing : Cut [] []
  | last {line : List UInt8} (visible : line ≠ []) (feedless : 10 ∉ line) : Cut line [line]
  | feed {line rest : List UInt8} {lines : List (List UInt8)} (feedless : 10 ∉ line)
      (bare : line.getLast? ≠ some 13) (later : Cut rest lines) :
      Cut (line ++ 10 :: rest) (line :: lines)
  | returnFeed {line rest : List UInt8} {lines : List (List UInt8)} (feedless : 10 ∉ line)
      (later : Cut rest lines) : Cut (line ++ 13 :: 10 :: rest) (line :: lines)

theorem withoutReturn_concat (line : List UInt8) : withoutReturn (line ++ [13]) = line := by
  rw [withoutReturn, List.getLast?_concat, if_pos rfl, List.dropLast_concat]

/-- What is read up to a line feed is a line, less the carriage return in front of it. -/
theorem Cut.cons {line rest : List UInt8} {lines : List (List UInt8)} (feedless : 10 ∉ line)
    (later : Cut rest lines) : Cut (line ++ 10 :: rest) (withoutReturn line :: lines) := by
  by_cases ended : line.getLast? = some 13
  · obtain ⟨front, rfl⟩ := List.getLast?_eq_some_iff.1 ended
    rw [withoutReturn_concat, List.append_assoc]
    exact .returnFeed (fun feed => feedless (List.mem_append_left _ feed)) later
  · rw [withoutReturn, if_neg ended]
    exact .feed feedless ended later

/-- **Run**: the bytes that wait for their line feed are the front of the next line. -/
theorem cut_linesFrom (input : List UInt8) :
    ∀ read : List UInt8, 10 ∉ read → Cut (read.reverse ++ input) (linesFrom read input) := by
  induction input with
  | nil =>
    intro read feedless
    rw [linesFrom, List.append_nil]
    cases read with
    | nil => exact .nothing
    | cons b read =>
      refine .last ?_ (List.mem_reverse.not.2 feedless)
      rw [List.reverse_cons]
      exact List.append_ne_nil_of_right_ne_nil _ (List.cons_ne_nil b [])
  | cons b input ih =>
    intro read feedless
    rw [linesFrom]
    by_cases feed : b = 10
    · subst feed
      rw [if_pos rfl]
      exact .cons (List.mem_reverse.not.2 feedless) (ih [] List.not_mem_nil)
    · rw [if_neg feed, List.append_cons, ← List.reverse_cons]
      refine ih (b :: read) fun inside => ?_
      rcases List.mem_cons.1 inside with here | before
      · exact feed here.symm
      · exact feedless before

theorem linesFrom_append {line : List UInt8} (feedless : 10 ∉ line) (rest : List UInt8) :
    ∀ read : List UInt8, linesFrom read (line ++ rest) = linesFrom (line.reverse ++ read) rest := by
  induction line with
  | nil => exact fun _ => rfl
  | cons b line ih =>
    intro read
    obtain ⟨here, later⟩ := not_or.1 (List.mem_cons.not.1 feedless)
    rw [List.cons_append, linesFrom, if_neg fun feed => here feed.symm, ih later,
      List.reverse_cons, List.append_assoc]
    rfl

theorem lines_append {line : List UInt8} (feedless : 10 ∉ line) (rest : List UInt8) :
    lines (line ++ 10 :: rest) = withoutReturn line :: lines rest := by
  rw [lines, linesFrom_append feedless, List.append_nil, linesFrom, if_pos rfl,
    List.reverse_reverse]
  rfl

theorem Cut.lines_eq {input : List UInt8} {ls : List (List UInt8)} (h : Cut input ls) :
    lines input = ls := by
  induction h with
  | nothing => rfl
  | @last line visible feedless =>
    have whole := linesFrom_append feedless [] []
    rw [List.append_nil, List.append_nil, linesFrom, List.reverse_reverse] at whole
    rw [lines, whole, if_neg]
    rw [List.isEmpty_reverse, List.isEmpty_iff]
    exact visible
  | feed feedless bare _ ih => rw [lines_append feedless, withoutReturn, if_neg bare, ih]
  | @returnFeed line rest lines feedless _ ih =>
    have feedless' : 10 ∉ line ++ [13] := by
      rw [List.mem_append]
      exact not_or.2 ⟨feedless, by decide⟩
    rw [List.append_cons, lines_append feedless', withoutReturn_concat, ih]

/-- **Lines**: the lines that are read from an input are those that it can be cut into. -/
theorem lines_eq_iff {input : List UInt8} {ls : List (List UInt8)} :
    lines input = ls ↔ Cut input ls := by
  constructor
  · rintro rfl
    exact cut_linesFrom input [] List.not_mem_nil
  · exact Cut.lines_eq

/-! ### Reading -/

/-- Why no more lines are read. -/
inductive Stop where
  | exit
  | inputEnd
  | undecodable
  deriving DecidableEq, Repr

/-- Which texts are read from the lines of an input, and why no more are. -/
inductive Heard : List (List UInt8) → List Text → Stop → Prop where
  /-- `/exit` is the last line that is read. -/
  | exit {line : List UInt8} {text : Text} (rest : List (List UInt8))
      (decoded : decode? line = some text) (command : text.trim = Command.exit.text) :
      Heard (line :: rest) [text] .exit
  | inputEnd : Heard [] [] .inputEnd
  | undecodable {line : List UInt8} (rest : List (List UInt8)) (broken : decode? line = none) :
      Heard (line :: rest) [] .undecodable
  | next {line : List UInt8} {text : Text} {rest : List (List UInt8)} {texts : List Text}
      {stop : Stop} (decoded : decode? line = some text) (other : text.trim ≠ Command.exit.text)
      (later : Heard rest texts stop) : Heard (line :: rest) (text :: texts) stop

theorem exists_heard (lines : List (List UInt8)) : ∃ texts stop, Heard lines texts stop := by
  induction lines with
  | nil => exact ⟨[], .inputEnd, .inputEnd⟩
  | cons line rest ih =>
    cases decoded : decode? line with
    | none => exact ⟨[], .undecodable, .undecodable rest decoded⟩
    | some text =>
      by_cases command : text.trim = Command.exit.text
      · exact ⟨[text], .exit, .exit rest decoded command⟩
      · obtain ⟨texts, stop, later⟩ := ih
        exact ⟨text :: texts, stop, .next decoded command later⟩

/-- What comes behind `/exit` is not read. -/
theorem Heard.append_of_exit {lines : List (List UInt8)} {texts : List Text} {stop : Stop}
    (h : Heard lines texts stop) (exit : stop = .exit) (more : List (List UInt8)) :
    Heard (lines ++ more) texts stop := by
  induction h with
  | exit rest decoded command => exact .exit (rest ++ more) decoded command
  | inputEnd => cases exit
  | undecodable rest broken => cases exit
  | next decoded other _ ih => exact .next decoded other (ih exit)

theorem linesFrom_append_feed (front rest read : List UInt8) :
    linesFrom read (front ++ 10 :: rest) = linesFrom read (front ++ [10]) ++ lines rest := by
  induction front generalizing read with
  | nil => rfl
  | cons b front ih =>
    rw [List.cons_append, List.cons_append, linesFrom, linesFrom]
    split
    · rw [ih, List.cons_append]
    · exact ih (b :: read)

/-- Behind a line feed an input can be cut on its own. -/
theorem lines_append_feed (front rest : List UInt8) :
    lines (front ++ 10 :: rest) = lines (front ++ [10]) ++ lines rest :=
  linesFrom_append_feed front rest []

/-- The conversation of a session that reads some texts and stops for some reason. -/
def told (s : Session) (texts : List Text) (stop : Stop) : Transcript where
  output := (s.turns texts).flatMap Turn.output
    ++ if stop = .inputEnd then farewellMessage ++ ['\n'] else []
  events := (s.turns texts).flatMap Turn.events ++ if stop = .inputEnd then [.inputEnded] else []
  ending := if stop = .undecodable then .undecodable else .farewell

theorem told_cons (s : Session) (text : Text) (texts : List Text) (stop : Stop) :
    told s (text :: texts) stop = (told (s.turn text).session texts stop).after (s.turn text) := by
  simp only [told, Session.turns, Transcript.after, List.flatMap_cons, List.append_assoc]

end Console

namespace Session

/-- Only `/exit` is answered with a farewell. -/
theorem reply_eq_farewell_iff (s : Session) (line : Text) :
    (∃ text, (s.turn line).reply = .farewell text) ↔ line.trim = Command.exit.text := by
  constructor
  · rintro ⟨text, farewell⟩
    have replies := s.replies_turn line
    rw [farewell] at replies
    cases replies with
    | exit command => exact command
  · intro command
    rw [turn, Command.ofText?_eq_some_iff.2 command]
    exact ⟨_, rfl⟩

end Session

namespace Console

/-- A conversation depends on the texts that are read, and on nothing else in the input. -/
theorem converse_eq_told {lines : List (List UInt8)} {texts : List Text} {stop : Stop}
    (h : Heard lines texts stop) (s : Session) : converse s lines = told s texts stop := by
  induction h generalizing s with
  | exit rest decoded command =>
    obtain ⟨_, farewell⟩ := (s.reply_eq_farewell_iff _).2 command
    rw [converse, step, decoded]
    dsimp only
    rw [farewell, told_cons]
    rfl
  | inputEnd => rfl
  | undecodable rest broken =>
    rw [converse, step, broken]
    rfl
  | @next line text rest texts stop decoded other later ih =>
    have goesOn : step s line = .next (s.turn text) := by
      rw [step, decoded]
      dsimp only
      split
      · next farewell => exact absurd ((s.reply_eq_farewell_iff text).1 ⟨_, farewell⟩) other
      · rfl
    rw [converse, goesOn]
    dsimp only
    rw [ih, told_cons]

end Console

/-! ### Shown texts -/

/-- Whether a text stays within one line and has no exclamation mark, which the farewell has. -/
def Text.isPlain (s : Text) : Bool :=
  s.all fun c => c ≠ '\n' && c ≠ '!'

theorem Text.isPlain_append (s t : Text) : isPlain (s ++ t) = (s.isPlain && t.isPlain) :=
  List.all_append

/-- A text whose characters are of a class without line feed and exclamation mark is plain. -/
theorem Text.isPlain_of_forall {s : Text} {p : Char → Bool} (feed : p '\n' = false)
    (mark : p '!' = false) (h : ∀ c ∈ s, p c = true) : s.isPlain = true := by
  rw [isPlain, List.all_eq_true]
  intro c hc
  rw [Bool.and_eq_true, decide_eq_true_eq, decide_eq_true_eq]
  constructor
  · rintro rfl
    rw [h _ hc] at feed
    cases feed
  · rintro rfl
    rw [h _ hc] at mark
    cases mark

theorem Text.isPlain_intercalate {sep : Text} (hsep : sep.isPlain = true) :
    ∀ {ps : List Text}, (∀ p ∈ ps, p.isPlain = true) → isPlain (sep.intercalate ps) = true
  | [], _ => rfl
  | [p], h => by
    rw [List.intercalate_singleton]
    exact h p (List.mem_singleton_self p)
  | p :: q :: ps, h => by
    have rest := isPlain_intercalate hsep fun r hr => h r (List.mem_cons_of_mem p hr)
    rw [List.intercalate_cons_cons, isPlain_append, isPlain_append, rest, hsep,
      h p (List.mem_cons_self ..)]
    rfl

theorem Decimal.isPlain_ofInt (v : Int) : (ofInt v).isPlain = true := by
  refine Text.isPlain_of_forall (p := fun c => c.isDigit || c = '-') rfl rfl fun c hc => ?_
  by_cases sign : c = '-'
  · simp [sign]
  · simp [isDigit_of_mem_ofInt hc sign]

theorem Refusal.isPlain_message (e : Refusal) : e.message.isPlain = true := by
  cases e <;> rfl

theorem Session.Lettered.isPlain_dump {s : Session} (h : s.Lettered) :
    s.store.dump.isPlain = true := by
  have bindings : ∀ p ∈ s.store.toList.map (fun b => b.1 ++ '=' :: Decimal.ofInt b.2),
      Text.isPlain p = true := by
    intro p hp
    obtain ⟨b, hb, rfl⟩ := List.mem_map.1 hp
    have letters := h b.1 (List.mem_map_of_mem hb)
    have name : Text.isPlain b.1 = true :=
      Text.isPlain_of_forall rfl rfl (List.all_eq_true.1 (Bool.and_eq_true_iff.1 letters).2)
    rw [Text.isPlain_append, name]
    exact Decimal.isPlain_ofInt b.2
  have inner : Text.isPlain (", ".toList.intercalate _) = true :=
    Text.isPlain_intercalate rfl bindings
  show Text.isPlain ('\x7b' :: (", ".toList.intercalate _ ++ ['\x7d'])) = true
  exact (Text.isPlain_append _ _).trans (by rw [inner]; rfl)

namespace Session

/-- What is shown for a line other than `/exit` is plain. -/
theorem Lettered.isPlain_text? {s : Session} (h : s.Lettered) {line : Text}
    (other : line.trim ≠ Command.exit.text) {text : Text}
    (shown : (s.turn line).reply.text? = some text) : text.isPlain = true := by
  have replies := s.replies_turn line
  cases reply : (s.turn line).reply with
  | silence =>
    rw [reply] at shown
    cases shown
  | farewell t => exact absurd ((s.reply_eq_farewell_iff line).1 ⟨t, reply⟩) other
  | display t =>
    rw [reply] at shown replies
    cases shown
    cases replies with
    | help _ => rfl
    | print _ => exact h.isPlain_dump
    | value _ _ _ => exact Decimal.isPlain_ofInt _
    | refusal _ _ => exact Refusal.isPlain_message _

/-- The texts that are shown for some lines, one after the other. -/
def shown (s : Session) (lines : List Text) : List Text :=
  (s.turns lines).filterMap fun t => t.reply.text?

theorem shown_cons (s : Session) (line : Text) (lines : List Text) :
    s.shown (line :: lines)
      = (s.turn line).reply.text?.toList ++ (s.turn line).session.shown lines := by
  rw [shown, turns, List.filterMap_cons]
  cases (s.turn line).reply.text? <;> rfl

/-- What turns write are the texts that they show, each on a line of its own. -/
theorem flatMap_output_turns (lines : List Text) :
    ∀ s : Session, (s.turns lines).flatMap Turn.output = (s.shown lines).flatMap (· ++ ['\n']) := by
  induction lines with
  | nil => exact fun _ => rfl
  | cons line lines ih =>
    intro s
    rw [turns, List.flatMap_cons, ih, shown_cons, List.flatMap_append, Turn.output]
    cases (s.turn line).reply.text? with
    | none => rfl
    | some text => rw [Option.toList_some, List.flatMap_singleton]

end Session

/-! ### Conversations -/

namespace Console

/-- The texts that a conversation shows: plain ones, and the farewell at the end if it is not broken
off. -/
theorem Heard.exists_shown {lines : List (List UInt8)} {texts : List Text} {stop : Stop}
    (h : Heard lines texts stop) {s : Session} (letters : s.Lettered) :
    ∃ earlier : List Text, (∀ t ∈ earlier, t.isPlain = true) ∧
      s.shown texts ++ (if stop = .inputEnd then [farewellMessage] else [])
        = earlier ++ if stop = .undecodable then [] else [farewellMessage] := by
  induction h generalizing s with
  | exit rest decoded command =>
    refine ⟨[], nofun, ?_⟩
    rw [Session.shown_cons, Session.turn, Command.ofText?_eq_some_iff.2 command]
    rfl
  | inputEnd => exact ⟨[], nofun, rfl⟩
  | undecodable rest broken => exact ⟨[], nofun, rfl⟩
  | @next line text rest texts stop decoded other later ih =>
    obtain ⟨earlier, plain, split⟩ := ih (letters.turn text)
    refine ⟨(s.turn text).reply.text?.toList ++ earlier, ?_, ?_⟩
    · intro t ht
      rcases List.mem_append.1 ht with here | before
      · exact letters.isPlain_text? other (Option.mem_toList.1 here)
      · exact plain t before
    · rw [Session.shown_cons, List.append_assoc, split, List.append_assoc]

/-- Texts without line feeds that are written on lines of their own are read back. -/
theorem splitOn_flatMap_feed {ts : List Text} (h : ∀ t ∈ ts, '\n' ∉ t) :
    (ts.flatMap (· ++ ['\n'])).splitOn '\n' = ts ++ [[]] := by
  induction ts with
  | nil => rfl
  | cons t ts ih =>
    have first : ∀ c ∈ t, (c == '\n') = false := by
      intro c hc
      rw [beq_eq_false_iff_ne]
      rintro rfl
      exact h t (List.mem_cons_self ..) hc
    have later := ih fun u hu => h u (List.mem_cons_of_mem t hu)
    rw [List.flatMap_cons, List.append_assoc]
    show List.splitOnP (· == '\n') (t ++ '\n' :: ts.flatMap _) = _
    rw [List.splitOnP_append_cons_of_forall_mem first '\n' rfl]
    exact congrArg (t :: ·) later

/-- The output of a conversation, as the texts that it shows. -/
theorem output_told (s : Session) (texts : List Text) (stop : Stop) :
    (told s texts stop).output
      = (s.shown texts ++ if stop = .inputEnd then [farewellMessage] else []).flatMap
          (· ++ ['\n']) := by
  rw [told, s.flatMap_output_turns, List.flatMap_append]
  cases stop <;> rfl

theorem not_mem_of_isPlain {t : Text} (h : t.isPlain = true) : '\n' ∉ t ∧ '!' ∉ t := by
  constructor
  · intro feed
    cases List.all_eq_true.1 h _ feed
  · intro mark
    cases List.all_eq_true.1 h _ mark

/-- A conversation that is not broken off has the farewell as its last line, and as no other. -/
theorem Heard.farewell_told {lines : List (List UInt8)} {texts : List Text} {stop : Stop}
    (h : Heard lines texts stop) {s : Session} (letters : s.Lettered)
    (ended : stop ≠ .undecodable) :
    farewellMessage ++ ['\n'] <:+ (told s texts stop).output ∧
      ((told s texts stop).output.splitOn '\n').count farewellMessage = 1 := by
  obtain ⟨earlier, plain, split⟩ := h.exists_shown letters
  rw [output_told, split, if_neg ended]
  constructor
  · rw [List.flatMap_append]
    exact List.suffix_append _ _
  · have feeds : ∀ t ∈ earlier ++ [farewellMessage], '\n' ∉ t := by
      intro t ht
      rcases List.mem_append.1 ht with before | last
      · exact (not_mem_of_isPlain (plain t before)).1
      · rw [List.mem_singleton.1 last]
        decide
    have before : farewellMessage ∉ earlier := by
      intro early
      exact (not_mem_of_isPlain (plain _ early)).2 (by decide)
    rw [splitOn_flatMap_feed feeds, List.count_append, List.count_append,
      List.count_eq_zero.2 before]
    rfl

/-- A conversation that is broken off has the farewell nowhere, not even within a line. -/
theorem Heard.not_farewell_told {lines : List (List UInt8)} {texts : List Text} {stop : Stop}
    (h : Heard lines texts stop) {s : Session} (letters : s.Lettered)
    (broken : stop = .undecodable) : ¬ farewellMessage <:+: (told s texts stop).output := by
  obtain ⟨earlier, plain, split⟩ := h.exists_shown letters
  rw [output_told, split, if_pos broken, List.append_nil]
  intro inside
  -- the farewell has a character that is nowhere in the output
  have mark : '!' ∈ earlier.flatMap (· ++ ['\n']) := inside.subset (by decide)
  obtain ⟨t, ht, here⟩ := List.mem_flatMap.1 mark
  rcases List.mem_append.1 here with text | feed
  · exact (not_mem_of_isPlain (plain t ht)).2 text
  · exact absurd (List.mem_singleton.1 feed) (by decide)

theorem ending_told (s : Session) (texts : List Text) (stop : Stop) :
    (told s texts stop).ending = .undecodable ↔ stop = .undecodable := by
  cases stop <;> simp [told]

/-- **Conversations**: an input is cut into lines, and on every input these are read up to the first
`/exit`, up to the end, or up to the first that is no UTF-8. The output is what a new session shows
for the lines that are read, each text on a line of its own. In the first two cases it ends with the
farewell, which is one of its lines and no other; in the third the conversation breaks off without
it. Bytes behind the line of `/exit` make no difference. -/
theorem run_heard (limits : Limits) :
    (∀ input ls, lines input = ls ↔ Cut input ls) ∧
      (∀ input, ∃ texts stop, Heard (lines input) texts stop) ∧
      (∀ input texts stop, Heard (lines input) texts stop →
        (run limits input).output
            = ((Session.new limits).shown texts
                ++ if stop = .inputEnd then ["Bye!".toList] else []).flatMap (· ++ ['\n']) ∧
          ((run limits input).ending = .undecodable ↔ stop = .undecodable) ∧
          (stop ≠ .undecodable →
            "Bye!".toList ++ ['\n'] <:+ (run limits input).output ∧
              ((run limits input).output.splitOn '\n').count "Bye!".toList = 1) ∧
          (stop = .undecodable → ¬ "Bye!".toList <:+: (run limits input).output)) ∧
      ∀ front texts, Heard (lines (front ++ [10])) texts .exit →
        ∀ rest, run limits (front ++ 10 :: rest) = run limits (front ++ [10]) := by
  refine ⟨fun _ _ => lines_eq_iff, fun input => exists_heard (lines input), ?_, ?_⟩
  · intro input texts stop heard
    have letters := Session.lettered_new limits
    rw [show run limits input = told (Session.new limits) texts stop from converse_eq_told heard _]
    exact ⟨output_told .., ending_told .., heard.farewell_told letters,
      heard.not_farewell_told letters⟩
  · intro front texts heard rest
    have longer : Heard (lines (front ++ 10 :: rest)) texts .exit := by
      rw [lines_append_feed]
      exact heard.append_of_exit rfl (lines rest)
    rw [run, run, converse_eq_told longer, converse_eq_told heard]

/-- What stands behind `/exit` need not be UTF-8; in front of it, what is not breaks off the
conversation, also where no line feed follows. -/
theorem run_heard_bytes :
    let front : List UInt8 := "x = 3\r\nx ^ 2\n /exit".toUTF8.data.toList
    let broken : List UInt8 := "7\n".toUTF8.data.toList ++ [255]
    Cut (front ++ [10])
        ["x = 3".toUTF8.data.toList, "x ^ 2".toUTF8.data.toList, " /exit".toUTF8.data.toList] ∧
      Heard (lines (front ++ [10])) ["x = 3".toList, "x ^ 2".toList, " /exit".toList] .exit ∧
      (run .standard (front ++ 10 :: [255, 10])).output = "9\nBye!\n".toList ∧
      Heard (lines broken) ["7".toList] .undecodable ∧
      (run .standard broken).output = "7\n".toList ∧
      ¬ "Bye!".toList <:+: (run .standard broken).output := by
  intro front broken
  obtain ⟨cut, -, told, exit⟩ := run_heard .standard
  have read : Heard (lines (front ++ [10])) ["x = 3".toList, "x ^ 2".toList, " /exit".toList]
      .exit :=
    .next (by decide +kernel) (by decide) <| .next (by decide +kernel) (by decide) <|
      .exit [] (by decide +kernel) (by decide)
  have stopped : Heard (lines broken) ["7".toList] .undecodable :=
    .next (by decide +kernel) (by decide) <| .undecodable [] (by decide +kernel)
  obtain ⟨output, -, -, none⟩ := told _ _ _ stopped
  refine ⟨(cut _ _).1 ?_, read, ?_, stopped, output.trans (by decide), none rfl⟩
  · decide +kernel
  · rw [exit front _ read [255, 10], (told _ _ _ read).1]
    decide

end Console

end Abacus
