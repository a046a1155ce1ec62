import MuxConsole.Proofs.Json.Quoted
import MuxConsole.Proofs.Json.Reading

/-!
# JSON texts are read for what stands in them

What counts as a JSON text goes by its form: numerals of any size, texts of any bytes,
lists and objects nested at any depth and with any name twice.  What it is read as, or why
it is refused, does not depend on what comes after it.  And whatever it says, it can be
passed over as a whole.
-/

namespace MuxConsole.Json

/-! ## JSON texts -/

/-- A text of JSON by its form, nested at any depth. -/
inductive IsJson : Bytes → Prop
  | null : IsJson (Utf8.encode "null")
  | bool (b : Bool) : IsJson (Utf8.encodeChars (renderBool b))
  | number {text : Bytes} (h : IsNumeral text) : IsJson text
  | text {quoted : Bytes} (h : IsQuoted quoted) : IsJson quoted
  | list {blanks : Bytes} {items : List (Spaced Unit)} (blank : IsBlank blanks)
      (each : ∀ item ∈ items, IsJson item.text) :
      IsJson (Ascii.openBracket ::
        (blanks ++ enclosed Ascii.closeBracket (items.map Spaced.bytes)))
  | object {blanks : Bytes} {members : List (Spaced Unit × Spaced Unit)}
      (blank : IsBlank blanks) (keys : ∀ member ∈ members, IsQuoted member.1.text)
      (each : ∀ member ∈ members, IsJson member.2.text) :
      IsJson (Ascii.openBrace :: (blanks ++ enclosed Ascii.closeBrace
        (members.map fun member => assigned member.1 member.2)))

theorem IsNumeral.exists_cons {text : Bytes} (h : IsNumeral text) :
    ∃ b more, text = b :: more ∧ BeginsNumeral b := by
  obtain ⟨sign, whole, fraction, exponent, rfl, hsign, hwhole, -, -⟩ := h
  simp only [List.mem_cons, List.not_mem_nil, or_false] at hsign
  rcases hsign with rfl | rfl
  · obtain ⟨b, more, rfl, digit⟩ := hwhole.exists_cons
    exact ⟨b, _, rfl, .inr digit⟩
  · exact ⟨Ascii.minus, _, rfl, .inl rfl⟩

theorem IsJson.beginsItem {text : Bytes} (h : IsJson text) : BeginsItem text := by
  cases h with
  | null => exact ⟨Ascii.lowerN, _, rfl, by decide⟩
  | bool b =>
      cases b with
      | true => exact ⟨Ascii.lowerT, _, rfl, by decide⟩
      | false => exact ⟨Ascii.lowerF, _, rfl, by decide⟩
  | number h =>
      obtain ⟨b, more, hcons, begins⟩ := h.exists_cons
      exact ⟨b, more, hcons, begins.noBlank, begins.ne (by decide)⟩
  | text h =>
      obtain ⟨glyphs, _, rfl⟩ := h
      exact ⟨_, _, rfl, by decide⟩
  | list => exact ⟨_, _, rfl, by decide⟩
  | object => exact ⟨_, _, rfl, by decide⟩

/-! ## Scalars -/

/-- A scalar is read as this value or refused for this reason, whatever follows it. -/
def ScansAs (text : Bytes) (result : Except Problem Json) : Prop :=
  (∀ j, result = .ok j → (∀ items, j ≠ .list items) ∧ ∀ members, j ≠ .object members) ∧
    ∀ rest, EndsNumeral rest → scanHead (text ++ rest) = result.map fun j => (head j, rest)

theorem scansAs_null : ScansAs (Utf8.encode "null") (.ok .null) := by
  refine ⟨?_, fun rest _ => scanHead_null rest⟩
  rintro _ ⟨⟩
  exact ⟨nofun, nofun⟩

theorem scansAs_bool (b : Bool) : ScansAs (Utf8.encodeChars (renderBool b)) (.ok (.bool b)) := by
  refine ⟨?_, fun rest _ => scanHead_bool b rest⟩
  rintro _ ⟨⟩
  exact ⟨nofun, nofun⟩

theorem IsNumeral.exists_scans {text : Bytes} (h : IsNumeral text) :
    ∃ result, ScansAs text result := by
  obtain ⟨n, read⟩ := h.exists_numeral
  obtain ⟨b, more, rfl, begins⟩ := h.exists_cons
  refine ⟨n.value.map .number, ?_, fun rest ends => ?_⟩
  · intro j hj
    cases hn : n.value with
    | error problem =>
        rw [hn] at hj
        cases hj
    | ok value =>
        rw [hn] at hj
        cases hj
        exact ⟨nofun, nofun⟩
  · have scanned : scanNumber (b :: more ++ rest) = n.value.map (·, rest) := by
      simp only [scanNumber, read _ rest ends, bind, Except.bind]
      cases n.value <;> rfl
    rw [List.cons_append] at scanned ⊢
    rw [scanHead, skipBlanks_cons begins.noBlank]
    dsimp only
    rw [if_neg (begins.ne (by decide)), if_neg (begins.ne (by decide)),
      if_neg (begins.ne (by decide)), if_pos begins, scanned]
    cases n.value <;> rfl

theorem IsQuoted.exists_scans {text : Bytes} (h : IsQuoted text) :
    ∃ result, ScansAs text result := by
  refine ⟨(spelled text).map .text, ?_, fun rest _ => ?_⟩
  · intro j hj
    cases hs : spelled text with
    | error problem =>
        rw [hs] at hj
        cases hj
    | ok s =>
        rw [hs] at hj
        cases hj
        exact ⟨nofun, nofun⟩
  · rw [scanHead_quoted h.spells]
    cases spelled text <;> rfl

theorem IsJson.shape {text : Bytes} (h : IsJson text) :
    (∃ result, ScansAs text result) ∨
      (∃ (blanks : Bytes) (items : List (Spaced Unit)), IsBlank blanks ∧
        (∀ item ∈ items, IsJson item.text) ∧ text = Ascii.openBracket ::
          (blanks ++ enclosed Ascii.closeBracket (items.map Spaced.bytes))) ∨
      ∃ (blanks : Bytes) (members : List (Spaced Unit × Spaced Unit)), IsBlank blanks ∧
        (∀ member ∈ members, IsQuoted member.1.text ∧ IsJson member.2.text) ∧
        text = Ascii.openBrace :: (blanks ++ enclosed Ascii.closeBrace
          (members.map fun member => assigned member.1 member.2)) := by
  cases h with
  | null => exact .inl ⟨_, scansAs_null⟩
  | bool b => exact .inl ⟨_, scansAs_bool b⟩
  | number h => exact .inl h.exists_scans
  | text h => exact .inl h.exists_scans
  | list blank each => exact .inr (.inl ⟨_, _, blank, each, rfl⟩)
  | object blank keys each =>
      exact .inr (.inr ⟨_, _, blank, fun member h => ⟨keys member h, each member h⟩, rfl⟩)

/-! ## Outcomes -/

section

variable {α β : Type} {read : Reader α} {text : Bytes} {result : Except Problem α}

def outcome (read : Reader α) (text : Bytes) : Except Problem α := (read text).map (·.1)

/-- What the text is read as does not depend on what comes after it. -/
def Steady (read : Reader α) (text : Bytes) : Prop := Gives read text (outcome read text)

theorem Gives.outcome_eq (gives : Gives read text result) : outcome read text = result := by
  have alone := gives [] [] (List.forall_mem_nil _) nofun
  rw [List.nil_append, List.append_nil] at alone
  rw [outcome, alone]
  cases result <;> rfl

theorem Gives.steady (gives : Gives read text result) : Steady read text := by
  rw [Steady, gives.outcome_eq]
  exact gives

theorem Gives.map (gives : Gives read text result) (f : α → β) :
    Gives (fun input => (read input).map fun (x, rest) => (f x, rest)) text (result.map f) := by
  intro blanks rest blank ends
  dsimp only
  rw [gives blanks rest blank ends]
  cases result <;> rfl

theorem Gives.bind (gives : Gives read text result) (f : α → Except Problem β) :
    Gives (fun input => do
      let (x, rest) ← read input
      return (← f x, rest)) text (result >>= f) := by
  intro blanks rest blank ends
  dsimp only
  rw [gives blanks rest blank ends]
  cases result with
  | error problem => rfl
  | ok x =>
      change (f x >>= fun y => Except.ok (y, rest)) = (f x).map (·, rest)
      cases f x <;> rfl

end

/-! ## Values -/

theorem gives_of_scans {depth : Nat} {text : Bytes} {result : Except Problem Json}
    (scans : ScansAs text result) : Gives (value depth) text result := by
  obtain ⟨scalar, scanned⟩ := scans
  refine gives_value fun rest ends => ?_
  cases result with
  | error problem =>
      obtain ⟨inner, hvalue⟩ := exists_value_eq depth
      rw [hvalue, valueWith, scanned rest ends]
      rfl
  | ok j =>
      obtain ⟨noList, noObject⟩ := scalar j rfl
      exact value_of_scanHead noList noObject (scanned rest ends)

theorem gives_tooDeep {b : UInt8} (h : b = Ascii.openBracket ∨ b = Ascii.openBrace)
    (text : Bytes) : Gives (value 0) (b :: text) (.error .tooDeep) := by
  refine gives_value fun rest _ => ?_
  rcases h with rfl | rfl <;> rfl

/-- Every JSON text is read or refused for what stands in it. -/
theorem IsJson.steady {text : Bytes} (h : IsJson text) (depth : Nat) :
    Steady (value depth) text := by
  induction h generalizing depth with
  | null => exact (gives_of_scans scansAs_null).steady
  | bool b => exact (gives_of_scans (scansAs_bool b)).steady
  | number h =>
      obtain ⟨result, scans⟩ := h.exists_scans
      exact (gives_of_scans scans).steady
  | text h =>
      obtain ⟨result, scans⟩ := h.exists_scans
      exact (gives_of_scans scans).steady
  | list blank each ih =>
      cases depth with
      | zero => exact (gives_tooDeep (.inl rfl) _).steady
      | succ depth =>
          exact (gives_list (fun item h => ih item h depth)
            (fun item h => (each item h).beginsItem) blank).steady
  | object blank keys each ih =>
      cases depth with
      | zero => exact (gives_tooDeep (.inr rfl) _).steady
      | succ depth =>
          exact (gives_object Prod.fst Prod.snd (fun member h => (keys member h).spells)
            (fun member h => ih member h depth) blank).steady

/-! ## Passing over -/

def Passes (pass : Bytes → Except Problem Bytes) (text : Bytes) : Prop :=
  ∀ blanks rest, IsBlank blanks → EndsNumeral rest → pass (blanks ++ (text ++ rest)) = .ok rest

theorem skipHead_append {blanks : Bytes} (blank : IsBlank blanks) (input : Bytes) :
    skipHead (blanks ++ input) = skipHead input := by
  simp only [skipHead, skipBlanks_append blank]

theorem skipKey_append {blanks : Bytes} (blank : IsBlank blanks) (input : Bytes) :
    skipKey (blanks ++ input) = skipKey input := by
  simp only [skipKey, skipBlanks_append blank]

theorem skipText_quoted {text : Bytes} (h : IsQuoted text) :
    ∃ body, text = Ascii.quote :: body ∧
      ∀ rest, skipText (body ++ rest) (body ++ rest) = .ok rest := by
  obtain ⟨glyphs, each, rfl⟩ := h
  refine ⟨_, rfl, fun rest => ?_⟩
  rw [List.append_assoc, List.singleton_append]
  exact skipText_glyphs each rest (by simp)

theorem skipKey_assigned {β κ : Type} {key : Spaced κ} (h : IsQuoted key.text) (value : Spaced β)
    (left : Bytes) :
    skipKey (assigned key value ++ left) =
      .ok (value.before ++ (value.text ++ (value.after ++ left))) := by
  obtain ⟨body, hbody, skipped⟩ := skipText_quoted h
  rw [assigned_append, skipKey_append key.blankBefore, hbody]
  change (skipText (body ++ _) (body ++ _) >>= expectColon) = _
  rw [skipped]
  exact expectColon_assigned key _

theorem skipItems_tailed {β : Type} {pass : Bytes → Except Problem Bytes} {items : List (Spaced β)}
    (passes : ∀ item ∈ items, Passes pass item.text) {clock blanks : Bytes}
    (long : items.length < clock.length) (blank : IsBlank blanks) (rest : Bytes) :
    skipItems pass false clock
      (blanks ++ (tailed Ascii.closeBracket (items.map Spaced.bytes) ++ rest)) = .ok rest := by
  induction items generalizing clock blanks with
  | nil =>
      cases clock with
      | nil => cases long
      | cons _ clock =>
          rw [skipItems, skipBlanks_append blank]
          rfl
  | cons item items ih =>
      cases clock with
      | nil => cases long
      | cons tick clock =>
          obtain ⟨passesFirst, passesRest⟩ := List.forall_mem_cons.mp passes
          have ends := endsNumeral_tailed (.inl rfl) (items.map Spaced.bytes) rest
          have passed := passesFirst _ _ item.blankBefore (ends.append item.blankAfter)
          have others := ih passesRest (Nat.lt_of_succ_lt_succ long) item.blankAfter
          rw [skipItems, skipBlanks_append blank]
          change (pass (item.bytes ++ tailed _ _ ++ rest) >>= _) = _
          rw [List.append_assoc, item.bytes_append, passed]
          exact others

theorem skipItems_enclosed {β : Type} {pass : Bytes → Except Problem Bytes}
    {items : List (Spaced β)} (passes : ∀ item ∈ items, Passes pass item.text)
    (begins : ∀ item ∈ items, BeginsItem item.text) {clock blanks : Bytes}
    (long : items.length < clock.length) (blank : IsBlank blanks) (rest : Bytes) :
    skipItems pass true clock
      (blanks ++ (enclosed Ascii.closeBracket (items.map Spaced.bytes) ++ rest)) = .ok rest := by
  cases clock with
  | nil => cases long
  | cons tick clock =>
      cases items with
      | nil =>
          rw [skipItems, skipBlanks_append blank]
          rfl
      | cons item items =>
          obtain ⟨passesFirst, passesRest⟩ := List.forall_mem_cons.mp passes
          obtain ⟨beginsFirst, -⟩ := List.forall_mem_cons.mp begins
          have ends := endsNumeral_tailed (.inl rfl) (items.map Spaced.bytes) rest
          have passed := passesFirst [] _ (List.forall_mem_nil _) (ends.append item.blankAfter)
          have others := skipItems_tailed passesRest (Nat.lt_of_succ_lt_succ long)
            item.blankAfter rest
          obtain ⟨b, more, htext, noBlank, noBracket⟩ := beginsFirst
          rw [htext, List.nil_append, List.cons_append] at passed
          rw [List.map_cons, enclosed, List.append_assoc, item.bytes_append, htext, skipItems,
            skipBlanks_append blank, skipBlanks_append item.blankBefore, List.cons_append,
            skipBlanks_cons noBlank]
          dsimp only
          rw [if_neg noBracket, if_pos rfl, passed]
          exact others

theorem skipMembers_tailed {β κ ι : Type} (key : ι → Spaced κ) (part : ι → Spaced β)
    {pass : Bytes → Except Problem Bytes} {members : List ι}
    (keys : ∀ member ∈ members, IsQuoted (key member).text)
    (passes : ∀ member ∈ members, Passes pass (part member).text) {clock blanks : Bytes}
    (long : members.length < clock.length) (blank : IsBlank blanks) (rest : Bytes) :
    skipMembers pass false clock (blanks ++ (tailed Ascii.closeBrace
      (members.map fun member => assigned (key member) (part member)) ++ rest)) = .ok rest := by
  induction members generalizing clock blanks with
  | nil =>
      cases clock with
      | nil => cases long
      | cons _ clock =>
          rw [skipMembers, skipBlanks_append blank]
          rfl
  | cons member members ih =>
      cases clock with
      | nil => cases long
      | cons tick clock =>
          obtain ⟨quoted, keysRest⟩ := List.forall_mem_cons.mp keys
          obtain ⟨passesFirst, passesRest⟩ := List.forall_mem_cons.mp passes
          have ends := endsNumeral_tailed (.inr rfl)
            (members.map fun member => assigned (key member) (part member)) rest
          have passed := passesFirst _ _ (part member).blankBefore
            (ends.append (part member).blankAfter)
          have others := ih keysRest passesRest (Nat.lt_of_succ_lt_succ long)
            (part member).blankAfter
          rw [skipMembers, skipBlanks_append blank]
          change (skipKey (assigned _ _ ++ tailed _ _ ++ rest) >>= fun input =>
            pass input >>= _) = _
          rw [List.append_assoc, skipKey_assigned quoted]
          change (pass _ >>= _) = _
          rw [passed]
          exact others

theorem skipMembers_enclosed {β κ ι : Type} (key : ι → Spaced κ) (part : ι → Spaced β)
    {pass : Bytes → Except Problem Bytes} {members : List ι}
    (keys : ∀ member ∈ members, IsQuoted (key member).text)
    (passes : ∀ member ∈ members, Passes pass (part member).text) {clock blanks : Bytes}
    (long : members.length < clock.length) (blank : IsBlank blanks) (rest : Bytes) :
    skipMembers pass true clock (blanks ++ (enclosed Ascii.closeBrace
      (members.map fun member => assigned (key member) (part member)) ++ rest)) = .ok rest := by
  cases clock with
  | nil => cases long
  | cons tick clock =>
      cases members with
      | nil =>
          rw [skipMembers, skipBlanks_append blank]
          rfl
      | cons member members =>
          obtain ⟨quoted, keysRest⟩ := List.forall_mem_cons.mp keys
          obtain ⟨passesFirst, passesRest⟩ := List.forall_mem_cons.mp passes
          have ends := endsNumeral_tailed (.inr rfl)
            (members.map fun member => assigned (key member) (part member)) rest
          have passed := passesFirst _ _ (part member).blankBefore
            (ends.append (part member).blankAfter)
          have others := skipMembers_tailed key part keysRest passesRest
            (Nat.lt_of_succ_lt_succ long) (part member).blankAfter rest
          have named := skipKey_assigned quoted (part member)
            (tailed Ascii.closeBrace
              (members.map fun member => assigned (key member) (part member)) ++ rest)
          obtain ⟨body, hbody, -⟩ := skipText_quoted quoted
          rw [assigned_append, hbody, skipKey_append (key member).blankBefore] at named
          rw [List.map_cons, enclosed, List.append_assoc, skipMembers, skipBlanks_append blank,
            assigned_append, skipBlanks_append (key member).blankBefore, hbody]
          change (skipKey (Ascii.quote :: body ++ _) >>= fun input => pass input >>= _) = _
          rw [named]
          change (pass _ >>= _) = _
          rw [passed]
          exact others

/-! ### Values -/

theorem skipHead_null (rest : Bytes) :
    skipHead (Utf8.encode "null" ++ rest) = .ok (.scalar, rest) := by
  change (expectWord [Ascii.lowerU, Ascii.lowerL, Ascii.lowerL]
    ([Ascii.lowerU, Ascii.lowerL, Ascii.lowerL] ++ rest)).map (Opening.scalar, ·) = _
  rw [expectWord_append]
  rfl

theorem skipHead_bool (b : Bool) (rest : Bytes) :
    skipHead (Utf8.encodeChars (renderBool b) ++ rest) = .ok (.scalar, rest) := by
  cases b with
  | true =>
      change (expectWord [Ascii.lowerR, Ascii.lowerU, Ascii.lowerE]
        ([Ascii.lowerR, Ascii.lowerU, Ascii.lowerE] ++ rest)).map (Opening.scalar, ·) = _
      rw [expectWord_append]
      rfl
  | false =>
      change (expectWord [Ascii.lowerA, Ascii.lowerL, Ascii.lowerS, Ascii.lowerE]
        ([Ascii.lowerA, Ascii.lowerL, Ascii.lowerS, Ascii.lowerE] ++ rest)).map
          (Opening.scalar, ·) = _
      rw [expectWord_append]
      rfl

theorem skipHead_number {text rest : Bytes} (h : IsNumeral text) (ends : EndsNumeral rest) :
    skipHead (text ++ rest) = .ok (.scalar, rest) := by
  obtain ⟨n, read⟩ := h.exists_numeral
  have scanned := read .badNumber rest ends
  obtain ⟨b, more, rfl, begins⟩ := h.exists_cons
  rw [List.cons_append] at scanned ⊢
  rw [skipHead, skipBlanks_cons begins.noBlank]
  dsimp only
  rw [if_neg (begins.ne (by decide)), if_neg (begins.ne (by decide)),
    if_neg (begins.ne (by decide)), if_pos begins, scanned]
  rfl

theorem skipHead_quoted {text : Bytes} (h : IsQuoted text) (rest : Bytes) :
    skipHead (text ++ rest) = .ok (.scalar, rest) := by
  obtain ⟨body, rfl, skipped⟩ := skipText_quoted h
  change (skipText (body ++ rest) (body ++ rest)).map _ = _
  rw [skipped]
  rfl

theorem passes_value {depth : Nat} {text : Bytes}
    (h : ∀ rest, EndsNumeral rest → skipValue depth (text ++ rest) = .ok rest) :
    Passes (skipValue depth) text := by
  intro blanks rest blank ends
  have passed := h rest ends
  cases depth with
  | zero => cases passed
  | succ depth => rwa [skipValue, skipHead_append blank, ← skipValue]

theorem passes_scalar {depth : Nat} {text : Bytes} (begins : BeginsItem text)
    (deep : text.length ≤ depth)
    (h : ∀ rest, EndsNumeral rest → skipHead (text ++ rest) = .ok (.scalar, rest)) :
    Passes (skipValue depth) text := by
  obtain ⟨b, more, rfl, -⟩ := begins
  cases depth with
  | zero => cases deep
  | succ depth =>
      refine passes_value fun rest ends => ?_
      rw [skipValue, h rest ends]
      rfl

theorem length_lt_tailed_of_mem (close : UInt8) {parts : List Bytes} {part : Bytes}
    (h : part ∈ parts) : part.length < (tailed close parts).length := by
  induction parts with
  | nil => cases h
  | cons first parts ih =>
      rw [tailed, List.length_cons, List.length_append]
      rcases List.mem_cons.mp h with rfl | h
      · omega
      · have later := ih h
        omega

theorem length_lt_enclosed_of_mem (close : UInt8) {parts : List Bytes} {part : Bytes}
    (h : part ∈ parts) : part.length < (enclosed close parts).length := by
  cases parts with
  | nil => cases h
  | cons first parts =>
      have tail := length_lt_tailed close parts
      rw [enclosed, List.length_append]
      rcases List.mem_cons.mp h with rfl | h
      · omega
      · have later := length_lt_tailed_of_mem close h
        omega

theorem IsJson.passes_deep {text : Bytes} (h : IsJson text) {depth : Nat}
    (deep : text.length ≤ depth) : Passes (skipValue depth) text := by
  have begins := h.beginsItem
  induction h generalizing depth with
  | null => exact passes_scalar begins deep fun rest _ => skipHead_null rest
  | bool b => exact passes_scalar begins deep fun rest _ => skipHead_bool b rest
  | number h => exact passes_scalar begins deep fun rest ends => skipHead_number h ends
  | text h => exact passes_scalar begins deep fun rest _ => skipHead_quoted h rest
  | @list blanks items blank each ih =>
      cases depth with
      | zero => cases deep
      | succ depth =>
          have beginsEach (item : Spaced Unit) (h : item ∈ items) := (each item h).beginsItem
          have passes (item : Spaced Unit) (h : item ∈ items) :
              Passes (skipValue depth) item.text := by
            refine ih item h ?_ (beginsEach item h)
            have short := length_lt_enclosed_of_mem Ascii.closeBracket
              (List.mem_map_of_mem (f := Spaced.bytes) h)
            simp [Spaced.bytes] at deep short
            omega
          refine passes_value fun rest _ => ?_
          have skipped := skipItems_enclosed passes beginsEach
            (length_lt_items beginsEach blanks rest) blank rest
          rw [List.cons_append, List.append_assoc]
          exact skipped
  | @object blanks members blank keys each ih =>
      cases depth with
      | zero => cases deep
      | succ depth =>
          have passes (member : Spaced Unit × Spaced Unit) (h : member ∈ members) :
              Passes (skipValue depth) member.2.text := by
            refine ih member h ?_ (each member h).beginsItem
            have short := length_lt_enclosed_of_mem Ascii.closeBrace
              (List.mem_map_of_mem
                (f := fun member : Spaced Unit × Spaced Unit => assigned member.1 member.2) h)
            simp [assigned, Spaced.bytes] at deep short
            omega
          refine passes_value fun rest _ => ?_
          have skipped := skipMembers_enclosed Prod.fst Prod.snd keys passes
            (length_lt_members Prod.fst Prod.snd members blanks rest) blank rest
          rw [List.cons_append, List.append_assoc]
          exact skipped

theorem IsJson.passes {text : Bytes} (h : IsJson text) : Passes skip text := by
  intro blanks rest blank ends
  refine h.passes_deep ?_ blanks rest blank ends
  rw [List.length_append, List.length_append]
  omega

end MuxConsole.Json
