/-
**The display names of `/rename` and `/auth`.**

Both commands take a display name. `/auth` checks it as one, while `/rename` checks it as an
identifier: letters, digits and dashes only.

* `renameLine_names_iff`, `authLine_names_iff`: the names each command accepts;
* `displayNames_iff`: both clients take a name from both commands or from neither, unless it is a
  display name with another character.
-/

import Ipk24Chat.Stdin.Refusal

namespace Ipk24Chat

open Scan

/-! ### What the validators accept -/

theorem validateMsgParam_id_iff (p : Str) : validateMsgParam p .id = true ↔
    p.length ≤ 20 ∧ ∀ ch ∈ p, isalnum ch = true ∨ ch = chr '-' := by
  simp [validateMsgParam]

theorem validateMsgParam_secret_iff (p : Str) : validateMsgParam p .secret = true ↔
    p.length ≤ 128 ∧ ∀ ch ∈ p, isalnum ch = true ∨ ch = chr '-' := by
  simp [validateMsgParam]

theorem validateMsgParam_dname_iff (p : Str) : validateMsgParam p .dname = true ↔
    p.length ≤ 20 ∧ ∀ ch ∈ p, isgraph ch = true := by
  simp [validateMsgParam]

theorem isgraph_of_word {ch : UInt8} (word : isalnum ch = true ∨ ch = chr '-') :
    isgraph ch = true := by
  rcases word with alnum | rfl
  · exact isgraph_of_isalnum alnum
  · decide

/-- A parameter of letters, digits and dashes is one fragment. -/
theorem free_of_words {p : Str} (words : ∀ ch ∈ p, isalnum ch = true ∨ ch = chr '-') :
    ∀ ch ∈ p, isspace ch = false :=
  fun ch member => isspace_of_isgraph (isgraph_of_word (words ch member))

/-- **The names both commands judge alike**: a name of letters, digits and dashes, and one that is no
display name. -/
def JudgedAlike (x : Str) : Prop :=
  (∀ ch ∈ x, isalnum ch = true ∨ ch = chr '-') ∨ 20 < x.length ∨ ∃ ch ∈ x, isgraph ch = false

theorem judgedAlike_iff (x : Str) :
    JudgedAlike x ↔ (validateMsgParam x .id = true ↔ validateMsgParam x .dname = true) := by
  rw [validateMsgParam_id_iff, validateMsgParam_dname_iff]
  constructor
  · rintro (words | long | ⟨ch, member, other⟩)
    · exact and_congr_right fun _ =>
        iff_of_true words fun ch member => isgraph_of_word (words ch member)
    · exact iff_of_false (fun id => absurd id.1 (by omega)) fun name => absurd name.1 (by omega)
    · refine iff_of_false (fun id => ?_) fun name => ?_
      · exact absurd (isgraph_of_word (id.2 ch member)) (by simp [other])
      · exact absurd (name.2 ch member) (by simp [other])
  · intro alike
    by_cases long : 20 < x.length
    · exact Or.inr (Or.inl long)
    by_cases graph : ∀ ch ∈ x, isgraph ch = true
    · exact Or.inl (alike.mpr ⟨by omega, graph⟩).2
    · push Not at graph
      obtain ⟨ch, member, other⟩ := graph
      exact Or.inr (Or.inr ⟨ch, member, by simpa using other⟩)

/-! ### The two lines -/

/-- The line `/rename x`. -/
def renameLine (x : Str) : Str := bytes "/rename" ++ chr ' ' :: x

/-- The line `/auth u s x`. -/
def authLine (u s x : Str) : Str := bytes "/auth" ++ chr ' ' :: (u ++ chr ' ' :: (s ++ chr ' ' :: x))

/-- What the validation makes of a line of a client with this name. -/
def checkLine (name line : Str) : Checked :=
  ((NetworkMessage.new line .userCmd).setDisplayName name).checkUserMessage

theorem checkLine_checks (name line : Str) :
    Checks ((NetworkMessage.new line .userCmd).setDisplayName name) (command line)
      (checkLine name line) := checkUserMessage_checks rfl

/-- The line is accepted as a command of this type, with this display name. -/
def Checked.Names (o : Checked) (type : MsgType) (x : Str) : Prop :=
  o.valid = true ∧ o.msg.type = type ∧ o.msg.displayName = x

theorem Checks.names_rename_iff {m : NetworkMessage} {c : Command} {o : Checked}
    (checks : Checks m c o) (user : m.type = .userCmd) (x : Str) :
    o.Names .rename x ↔ c = .rename x := by
  cases checks <;> simp [Checked.Names, Checked.refuse, user]

theorem Checks.names_auth_iff {m : NetworkMessage} {c : Command} {o : Checked}
    (checks : Checks m c o) (user : m.type = .userCmd) (x : Str) :
    o.Names .auth x ↔ ∃ u s, c = .auth u s x := by
  cases checks <;> simp [Checked.Names, Checked.refuse, user]

/-- A token is the fragment it is, or none. -/
theorem words_token {x : Str} (free : ∀ ch ∈ x, isspace ch = false) :
    words isspace x = if x = [] then [] else [x] := by
  split
  next empty => rw [empty, words_nil]
  next nonempty => exact words_of_free nonempty free

theorem command_renameLine (x : Str) : command (renameLine x) = renameCommand (words isspace x) := by
  have parts : fragments (renameLine x) = bytes "/rename" :: words isspace x :=
    words_free_cons x (by decide) (by decide +kernel) (by decide)
  unfold command
  rw [parts]
  rfl

theorem command_authLine {u s : Str} (user : Field .id u) (secret : Field .secret s) (x : Str) :
    command (authLine u s x) = authCommand (u :: s :: words isspace x) := by
  have userFree := free_of_words ((validateMsgParam_id_iff u).mp user.2).2
  have secretFree := free_of_words ((validateMsgParam_secret_iff s).mp secret.2).2
  have parts : fragments (authLine u s x) = bytes "/auth" :: u :: s :: words isspace x := by
    unfold fragments authLine
    rw [words_free_cons _ (by decide) (by decide +kernel) (by decide),
      words_free_cons _ user.1 userFree (by decide),
      words_free_cons _ secret.1 secretFree (by decide)]
  unfold command
  rw [parts]
  rfl

/-- `/rename x` is the command for `x`, or it is refused. -/
theorem command_renameLine_eq {x : Str} (free : ∀ ch ∈ x, isspace ch = false) :
    command (renameLine x) = if x ≠ [] ∧ validateMsgParam x .id = true then .rename x
      else .refused .renameUsage := by
  rw [command_renameLine, words_token free]
  by_cases empty : x = []
  · rw [if_pos empty, if_neg (fun both => both.1 empty)]
    rfl
  · rw [if_neg empty]
    simp only [ne_eq, empty, not_false_eq_true, true_and]
    rfl

/-- `/auth u s x` is the command for `x`, or it is refused. -/
theorem command_authLine_eq {u s x : Str} (user : Field .id u) (secret : Field .secret s)
    (free : ∀ ch ∈ x, isspace ch = false) :
    command (authLine u s x) = if x ≠ [] ∧ validateMsgParam x .dname = true then .auth u s x
      else .refused .authUsage := by
  rw [command_authLine user secret, words_token free]
  by_cases empty : x = []
  · rw [if_pos empty, if_neg (fun both => both.1 empty)]
    rfl
  · rw [if_neg empty]
    simp only [ne_eq, empty, not_false_eq_true, true_and, authCommand, user.2, secret.2]

theorem renameLine_names_iff {x : Str} (free : ∀ ch ∈ x, isspace ch = false) (name : Str) :
    (checkLine name (renameLine x)).Names .rename x ↔ x ≠ [] ∧ validateMsgParam x .id = true := by
  rw [(checkLine_checks name _).names_rename_iff rfl, command_renameLine_eq free]
  split
  next accepted => exact iff_of_true rfl accepted
  next refused => exact iff_of_false Command.noConfusion refused

theorem authLine_names_iff {u s x : Str} (user : Field .id u) (secret : Field .secret s)
    (free : ∀ ch ∈ x, isspace ch = false) (name : Str) :
    (checkLine name (authLine u s x)).Names .auth x ↔ x ≠ [] ∧ validateMsgParam x .dname = true := by
  rw [(checkLine_checks name _).names_auth_iff rfl, command_authLine_eq user secret free]
  split
  next accepted => exact iff_of_true ⟨u, s, rfl⟩ accepted
  next refused => exact iff_of_false (by rintro ⟨_, _, same⟩; cases same) refused

/-! ### The law -/

/-- **An accepted line brings its name**, of at most 20 printable characters, and a refused one none:
`next` is the name behind the line. -/
structure Brings (name x next : Str) (accepted : Prop) : Prop where
  taken : accepted → next = x ∧ x.length ≤ 20 ∧ ∀ ch ∈ x, isgraph ch = true
  kept : ¬ accepted → next = name

/-- **The two commands agree on a name**, for a client with this name; `next` is its name behind a
line. -/
structure NamesAgree (name : Str) (next : Str → Str) (u s x : Str) : Prop where
  agree : (checkLine name (renameLine x)).Names .rename x ↔
    (checkLine name (authLine u s x)).Names .auth x
  rename : Brings name x (next (renameLine x)) ((checkLine name (renameLine x)).Names .rename x)
  auth : Brings name x (next (authLine u s x)) ((checkLine name (authLine u s x)).Names .auth x)

/-- Each line alone is as it should be, whatever the name. -/
theorem brings_renameLine {x : Str} (free : ∀ ch ∈ x, isspace ch = false) (name : Str) :
    Brings name x ((command (renameLine x)).name name)
      ((checkLine name (renameLine x)).Names .rename x) := by
  rw [renameLine_names_iff free, command_renameLine_eq free]
  constructor
  · intro accepted
    rw [if_pos accepted]
    have valid := (Field.dname_of_id accepted).2
    exact ⟨rfl, (validateMsgParam_dname_iff x).mp valid⟩
  · intro refused
    rw [if_neg refused]
    rfl

theorem brings_authLine {u s x : Str} (user : Field .id u) (secret : Field .secret s)
    (free : ∀ ch ∈ x, isspace ch = false) (name : Str) :
    Brings name x ((command (authLine u s x)).name name)
      ((checkLine name (authLine u s x)).Names .auth x) := by
  rw [authLine_names_iff user secret free, command_authLine_eq user secret free]
  constructor
  · intro accepted
    rw [if_pos accepted]
    exact ⟨rfl, (validateMsgParam_dname_iff x).mp accepted.2⟩
  · intro refused
    rw [if_neg refused]
    rfl

/-- **The law for a client that takes the name of the command over.** -/
theorem namesAgree_iff {u s x : Str} (user : Field .id u) (secret : Field .secret s)
    (free : ∀ ch ∈ x, isspace ch = false) {name : Str} {next : Str → Str}
    (takes : ∀ line, next line = (command line).name name) :
    NamesAgree name next u s x ↔ JudgedAlike x := by
  have alike : ((checkLine name (renameLine x)).Names .rename x ↔
      (checkLine name (authLine u s x)).Names .auth x) ↔ JudgedAlike x := by
    rw [renameLine_names_iff free, authLine_names_iff user secret free, judgedAlike_iff]
    by_cases empty : x = []
    · subst empty
      exact iff_of_true (by simp) (by decide)
    · simp only [ne_eq, empty, not_false_eq_true, true_and]
  rw [← alike]
  refine ⟨NamesAgree.agree, fun agree => ⟨agree, ?_, ?_⟩⟩
  · rw [takes]
    exact brings_renameLine free name
  · rw [takes]
    exact brings_authLine user secret free name

/-! ### Both clients -/

/-- **The display names of `/rename` and `/auth`**: in every state of both clients the two commands
agree on a name exactly when it has letters, digits and dashes only or is no display name. -/
theorem displayNames_iff {u s x : Str} (user : Field .id u) (secret : Field .secret s)
    (free : ∀ ch ∈ x, isspace ch = false) :
    (∀ c : TCPClient,
      NamesAgree c.dname (fun line => (c.userLine line).client.dname) u s x ↔ JudgedAlike x) ∧
    (∀ c : UDPClient,
      NamesAgree c.dname (fun line => (c.userLine line).client.dname) u s x ↔ JudgedAlike x) :=
  ⟨fun c => namesAgree_iff user secret free c.userLine_dname,
    fun c => namesAgree_iff user secret free c.userLine_dname⟩

/-- A name with a dash, at the start of a session. -/
theorem displayNames_dash :
    NamesAgree [] (fun line => (TCPClient.booted.client.userLine line).client.dname) (bytes "u")
        (bytes "s") (bytes "d-1") ∧
      NamesAgree [] (fun line => (UDPClient.booted.client.userLine line).client.dname) (bytes "u")
        (bytes "s") (bytes "d-1") := by
  obtain ⟨tcp, udp⟩ := displayNames_iff (show Field .id (bytes "u") from ⟨by decide, by decide⟩)
    (show Field .secret (bytes "s") from ⟨by decide, by decide⟩)
    (show ∀ ch ∈ bytes "d-1", isspace ch = false by decide +kernel)
  exact ⟨(tcp TCPClient.booted.client).mpr (Or.inl (by decide +kernel)),
    (udp UDPClient.booted.client).mpr (Or.inl (by decide +kernel))⟩

/-- **A name with a dot** is taken from `/auth u s a.b` and refused by `/rename a.b`, in both
clients. -/
theorem displayNames_dot :
    (TCPClient.booted.client.userLine (bytes "/auth u s a.b")).client.dname = bytes "a.b" ∧
    (TCPClient.booted.client.userLine (bytes "/rename a.b")).client.dname = [] ∧
    (TCPClient.booted.client.userLine (bytes "/rename a.b")).effects =
      [.print (.notice .renameUsage)] ∧
    ¬ NamesAgree [] (fun line => (TCPClient.booted.client.userLine line).client.dname) (bytes "u")
      (bytes "s") (bytes "a.b") ∧
    (UDPClient.booted.client.userLine (bytes "/auth u s a.b")).client.dname = bytes "a.b" ∧
    (UDPClient.booted.client.userLine (bytes "/rename a.b")).client.dname = [] ∧
    (UDPClient.booted.client.userLine (bytes "/rename a.b")).effects =
      [.print (.notice .renameUsage)] ∧
    ¬ NamesAgree [] (fun line => (UDPClient.booted.client.userLine line).client.dname) (bytes "u")
      (bytes "s") (bytes "a.b") := by
  have accepted : (checkLine [] (authLine (bytes "u") (bytes "s") (bytes "a.b"))).Names .auth
      (bytes "a.b") := ⟨by decide +kernel, by decide +kernel, by decide +kernel⟩
  have refused : ¬ (checkLine [] (renameLine (bytes "a.b"))).Names .rename (bytes "a.b") := by
    rintro ⟨valid, _⟩
    revert valid
    decide +kernel
  refine ⟨by decide +kernel, by decide +kernel, by decide +kernel, fun names => ?_,
    by decide +kernel, by decide +kernel, by decide +kernel, fun names => ?_⟩
  · exact refused (names.agree.mpr accepted)
  · exact refused (names.agree.mpr accepted)

end Ipk24Chat
