/-
# The history of a chat

What `list_messages` and `list_conversations` show after any sequence of `create_chat_run`,
`complete_chat_run` and `fail_chat_run`.  The messages are sorted by `created_at` alone, which is a
number of seconds, and a question is stored together with the placeholder of its answer; the row of
a conversation belongs to whoever used its id first; and the server takes ids for the same that its
collation does not tell apart.  So the history is complete and in order as long as every id is
spelled in one way, no id of another's conversation is used, and no two messages of a conversation
are stored within one second (`history_of_orderly`).
-/
import EcommerceAgent.Lib.Runs
import EcommerceAgent.Runtime.Records
import Mathlib

open EcommerceAgent.Lib

namespace EcommerceAgent.Runtime

/-! ### The calls -/

/-- The four statements of `create_chat_run`, at the times of the first three.  A key that is taken
rolls the transaction back. -/
def Records.insertChatRun (collate : String → String) (order : ChatOrder)
    (opened asked answered : ℕ) (r : Records) : Option Records := do
  let asked ← Table.insert (collate ·.id) (order.question asked) r.chatMessages
  let messages ← Table.insert (collate ·.id) (order.placeholder answered) asked
  let runs ← Table.insert (collate ·.id) order.chatRun r.chatRuns
  guard (¬Table.HasKey (collate ·.taskId) r.chatRuns (collate order.taskId))
  return { r with
    conversations := Table.upsert (collate ·.id)
      (fun old _ => { old with updatedAt := opened }) (order.conversation opened) r.conversations
    chatMessages := messages
    chatRuns := runs }

/-- A call of `ai_chat_service`.  `refused` is true where the database refuses a statement of the
transaction for another reason than a key. -/
inductive ChatCall
  | create (order : ChatOrder) (opened asked answered : ℕ) (refused : Bool)
  | complete (identity : Identity) (taskId assistantContent : String) (source : AnswerSource)
      (structuredResultJson : Option String) (failures : List (Option PyError))
  | fail (identity : Identity) (taskId errorMessage : String) (status : ChatStatus)
      (failures : List (Option PyError))

/-- Who makes the call. -/
def ChatCall.identity : ChatCall → Identity
  | create order .. => order.identity
  | complete identity .. => identity
  | fail identity .. => identity

/-- The process and the tables, and the calls of `create_chat_run` that went through. -/
structure ChatHistory where
  world : World
  accepted : List ChatOrder

namespace ChatHistory

/-- Empty tables. -/
def init : ChatHistory where
  world := ⟨.empty, {}⟩
  accepted := []

variable (collate : String → String) (s : ChatHistory)

/-- The tables after `create_chat_run`, if its transaction is committed. -/
def committed (order : ChatOrder) (opened asked answered : ℕ) (refused : Bool) : Option Records :=
  if refused then none else s.world.records.insertChatRun collate order opened asked answered

/-- One call. -/
def step : ChatCall → ChatHistory
  | .create order opened asked answered refused =>
    match s.committed collate order opened asked answered refused with
    | some records =>
      { world := { s.world with records := records }
        accepted := s.accepted ++ [order] }
    | none => s
  | .complete identity taskId assistantContent source structuredResultJson failures =>
    { s with
      world := ((completeChatRun collate identity taskId assistantContent source
        structuredResultJson).exec failures s.world).2 }
  | .fail identity taskId errorMessage status failures =>
    { s with
      world := ((failChatRun collate identity taskId errorMessage status).exec failures s.world).2 }

/-! ### What is claimed -/

/-- `WHERE tenant_id=%s AND shop_id=%s AND user_id=%s AND conversation_id=%s`. -/
def InConversation (identity : Identity) (conversationId : String) (m : ChatMessage) : Bool :=
  m.identity.same collate identity && collate m.conversationId == collate conversationId

/-- A result of `list_messages`; messages of the same second come in any order. -/
def ListsMessages (identity : Identity) (conversationId : String) (result : List ChatMessage) :
    Prop :=
  result.Perm
      (s.world.records.chatMessages.filter (InConversation collate identity conversationId)) ∧
    result.Pairwise fun a b => a.createdAt ≤ b.createdAt

/-- A result of `list_conversations`. -/
def ListsConversations (identity : Identity) (result : List ChatConversation) : Prop :=
  ∃ rows : List ChatConversation,
    rows.Perm (s.world.records.conversations.filter (·.identity.same collate identity)) ∧
      rows.Pairwise (fun a b => b.updatedAt ≤ a.updatedAt) ∧ result = rows.take 50

/-- The messages of a conversation, as they were accepted: each question, and then its answer. -/
def expected (identity : Identity) (conversationId : String) : List String :=
  (s.accepted.filter fun order =>
    order.identity == identity && order.conversationId == conversationId).flatMap fun order =>
      [order.ids.userMessageId, order.ids.assistantMessageId]

/-- The row is among the result, or 50 rows that were updated at least as recently are. -/
def Listed (row : ChatConversation) (result : List ChatConversation) : Prop :=
  row ∈ result ∨ result.length = 50 ∧ ∀ r ∈ result, row.updatedAt ≤ r.updatedAt

/-- The stored ids that the server takes for these two are these two. -/
def Spelled (identity : Identity) (conversationId : String) : Prop :=
  ∀ m ∈ s.world.records.chatMessages, InConversation collate identity conversationId m = true →
    m.identity = identity ∧ m.conversationId = conversationId

/-- Everybody sees the own messages, each once and in order, and the own conversations, unless the
request spells stored ids in another way. -/
structure Complete : Prop where
  messages : ∀ identity conversationId, s.Spelled collate identity conversationId → ∀ result,
    s.ListsMessages collate identity conversationId result →
      result.map (·.id) = s.expected identity conversationId
  conversations : ∀ message ∈ s.world.records.chatMessages, ∀ result,
    s.ListsConversations collate message.identity result →
      ∃ row ∈ s.world.records.conversations, row.id = message.conversationId ∧
        row.identity = message.identity ∧ Listed row result

/-- Nothing of another identity is changed. -/
structure Untouched (identity : Identity) (after : ChatHistory) : Prop where
  conversations :
    after.world.records.conversations.filter (·.identity != identity) =
      s.world.records.conversations.filter (·.identity != identity)
  messages :
    after.world.records.chatMessages.filter (·.identity != identity) =
      s.world.records.chatMessages.filter (·.identity != identity)
  runs :
    after.world.records.chatRuns.filter (·.identity != identity) =
      s.world.records.chatRuns.filter (·.identity != identity)

/-! ### The condition -/

/-- A new question finds no row of its conversation id but that of its own conversation, and its two
messages are stored in two seconds, both later than all other messages of the conversation.  An
update spells the stored identity as it is. -/
def Orderly : ChatCall → Prop
  | .create order _ asked answered _ =>
    (∀ row ∈ s.world.records.conversations, collate row.id = collate order.conversationId →
      row.id = order.conversationId ∧ row.identity = order.identity) ∧
    (∀ m ∈ s.world.records.chatMessages,
      InConversation collate order.identity order.conversationId m = true → m.createdAt < asked) ∧
    asked < answered
  | .complete identity .. | .fail identity .. =>
    (∀ run ∈ s.world.records.chatRuns, run.identity.same collate identity = true →
      run.identity = identity) ∧
    ∀ m ∈ s.world.records.chatMessages, m.identity.same collate identity = true →
      m.identity = identity

/-! ### The updates of the service -/

/-- The columns of a message that no update sets. -/
structure SamePlace (m m' : ChatMessage) : Prop where
  id : m'.id = m.id
  identity : m'.identity = m.identity
  conversationId : m'.conversationId = m.conversationId
  createdAt : m'.createdAt = m.createdAt

/-- What an update for an identity may do to the tables of the chat. -/
structure ChatFrame (identity : Identity) (w w' : World) : Prop where
  conversations : w'.records.conversations = w.records.conversations
  messages : ∃ f : ChatMessage → ChatMessage,
    w'.records.chatMessages = w.records.chatMessages.map f ∧ (∀ m, SamePlace m (f m)) ∧
      ∀ m, m.identity.same collate identity = false → f m = m
  runs : ∃ g : ChatRun → ChatRun, w'.records.chatRuns = w.records.chatRuns.map g ∧
    (∀ run, (g run).identity = run.identity) ∧
      ∀ run, run.identity.same collate identity = false → g run = run

section

variable {collate} {identity : Identity}

instance : Std.Refl (ChatFrame collate identity) where
  refl w := ⟨rfl, ⟨id, by simp, fun _ => ⟨rfl, rfl, rfl, rfl⟩, fun _ _ => rfl⟩,
    ⟨id, by simp, fun _ => rfl, fun _ _ => rfl⟩⟩

instance : IsTrans World (ChatFrame collate identity) where
  trans w w' w'' := by
    rintro ⟨hconversations, ⟨f, hmessages, hplace, hother⟩, g, hruns, hidentity, hother'⟩
      ⟨hconversations', ⟨f', hmessages', hplace', hotherf⟩, g', hruns', hidentity', hotherg⟩
    refine ⟨hconversations'.trans hconversations, ⟨f' ∘ f, ?_, fun m => ?_, fun m hm => ?_⟩,
      g' ∘ g, ?_, fun run => ?_, fun run hrun => ?_⟩
    · rw [hmessages', hmessages, List.map_map]
    · have h := hplace m
      have h' := hplace' (f m)
      exact ⟨h'.id.trans h.id, h'.identity.trans h.identity,
        h'.conversationId.trans h.conversationId, h'.createdAt.trans h.createdAt⟩
    · rw [Function.comp_apply, hother m hm, hotherf m hm]
    · rw [hruns', hruns, List.map_map]
    · rw [Function.comp_apply, hidentity', hidentity]
    · rw [Function.comp_apply, hother' run hrun, hotherg run hrun]

lemma effects_fetch_chat {α : Type} {statement : Statement} {q : Records → α} :
    (fetch statement q).Effects fun _ => ChatFrame collate identity :=
  ⟨fun w => refl w, fun _ => trivial, fun _ => trivial⟩

/-- An update of the runs of the identity. -/
lemma effects_updateRun {statement : Statement} {taskId : String} {g : ChatRun → ChatRun}
    (hg : ∀ run, (g run).identity = run.identity) :
    (execute statement (·.updateRun collate identity taskId g)).Effects
      fun _ => ChatFrame collate identity := by
  refine ⟨fun w => ⟨rfl, (refl (r := ChatFrame collate identity) w).messages, _, rfl,
    fun run => ?_, fun run hrun => ?_⟩, fun _ => trivial, fun _ => trivial⟩
  · split
    · exact hg run
    · rfl
  · rw [if_neg]
    simp [ChatRun.ofTask, hrun]

/-- An update of the messages of the identity. -/
lemma effects_updateMessage {statement : Statement} {id : String} {f : ChatMessage → ChatMessage}
    (hf : ∀ m, SamePlace m (f m)) :
    (execute statement (·.updateMessage collate identity id f)).Effects
      fun _ => ChatFrame collate identity := by
  refine ⟨fun w => ⟨rfl, ⟨_, rfl, fun m => ?_, fun m hm => ?_⟩,
    (refl (r := ChatFrame collate identity) w).runs⟩, fun _ => trivial, fun _ => trivial⟩
  · split
    · exact hf m
    · exact ⟨rfl, rfl, rfl, rfl⟩
  · rw [if_neg]
    simp [ChatMessage.ofId, hm]

lemma effects_completeChatRun (taskId assistantContent : String) (source : AnswerSource)
    (structuredResultJson : Option String) :
    (completeChatRun collate identity taskId assistantContent source structuredResultJson).Effects
      fun _ => ChatFrame collate identity := by
  unfold completeChatRun
  refine Script.Effects.bind effects_fetch_chat fun found => ?_
  cases found with
  | none => exact trivial
  | some run =>
    refine Script.Effects.bind (effects_updateRun ?_) fun _ => effects_updateMessage ?_
    · exact fun _ => rfl
    · exact fun _ => ⟨rfl, rfl, rfl, rfl⟩

lemma effects_failChat (taskId errorMessage : String) (status : ChatStatus) :
    (failChatRun collate identity taskId errorMessage status).Effects
      fun _ => ChatFrame collate identity := by
  unfold failChatRun
  refine Script.Effects.bind effects_fetch_chat fun found => ?_
  cases found with
  | none => exact trivial
  | some run =>
    refine Script.Effects.bind (effects_updateRun ?_) fun _ => effects_updateMessage ?_
    · exact fun _ => rfl
    · exact fun _ => ⟨rfl, rfl, rfl, rfl⟩

end

/-! ### The invariant -/

/-- The message is one of the conversation, whose ids are spelled in this way. -/
def Exactly (identity : Identity) (conversationId : String) (m : ChatMessage) : Bool :=
  m.identity == identity && m.conversationId == conversationId

/-- The messages of a conversation are stored in their order, at different times, and the
conversation is the identity's own; no other spelling of its id is stored. -/
structure Inv : Prop where
  stored : ∀ identity conversationId,
    ((s.world.records.chatMessages.filter (Exactly identity conversationId)).map (·.id)) =
      s.expected identity conversationId
  later : ∀ identity conversationId,
    (s.world.records.chatMessages.filter (Exactly identity conversationId)).Pairwise
      fun a b => a.createdAt < b.createdAt
  owned : ∀ message ∈ s.world.records.chatMessages, ∃ row ∈ s.world.records.conversations,
    row.id = message.conversationId ∧ row.identity = message.identity

variable {collate s} {identity : Identity} {order : ChatOrder} {opened asked answered : ℕ}
  {refused : Bool} {records : Records}

lemma exactly_iff {conversationId : String} {m : ChatMessage} :
    Exactly identity conversationId m = true ↔
      m.identity = identity ∧ m.conversationId = conversationId := by
  simp [Exactly]

/-- The server finds the messages that are spelled in this way. -/
lemma inConversation_of_exactly {conversationId : String} {m : ChatMessage}
    (h : Exactly identity conversationId m = true) :
    InConversation collate identity conversationId m = true := by
  obtain ⟨rfl, rfl⟩ := exactly_iff.1 h
  simp [InConversation, Identity.same]

/-- Where the request spells the stored ids as they are, the server finds nothing else. -/
lemma filter_inConversation {conversationId : String}
    (h : s.Spelled collate identity conversationId) :
    s.world.records.chatMessages.filter (InConversation collate identity conversationId) =
      s.world.records.chatMessages.filter (Exactly identity conversationId) := by
  refine List.filter_congr fun m hm => Bool.eq_iff_iff.2 ⟨fun hin => ?_, inConversation_of_exactly⟩
  exact exactly_iff.2 (h m hm hin)

lemma inv_init : init.Inv where
  stored _ _ := rfl
  later _ _ := List.Pairwise.nil
  owned _ h := absurd h List.not_mem_nil

/-- What an update keeps of a conversation. -/
lemma filter_map_samePlace {f : ChatMessage → ChatMessage} (hf : ∀ m, SamePlace m (f m))
    (identity : Identity) (conversationId : String) (l : List ChatMessage) :
    (l.map f).filter (Exactly identity conversationId) =
      (l.filter (Exactly identity conversationId)).map f := by
  have hsame : Exactly identity conversationId ∘ f = Exactly identity conversationId := by
    funext m
    simp [Exactly, (hf m).identity, (hf m).conversationId]
  rw [List.filter_map, hsame]

/-- An update keeps the invariant. -/
lemma inv_frame (collate : String → String) {w : World} (h : s.Inv)
    (hw : ChatFrame collate identity s.world w) : { s with world := w : ChatHistory }.Inv := by
  obtain ⟨f, hmessages, hplace, -⟩ := hw.messages
  refine ⟨fun identity c => ?_, fun identity c => ?_, fun m hm => ?_⟩
  · rw [hmessages, filter_map_samePlace hplace, List.map_map]
    refine Eq.trans ?_ (h.stored identity c)
    exact List.map_congr_left fun m _ => (hplace m).id
  · rw [hmessages, filter_map_samePlace hplace, List.pairwise_map]
    refine (h.later identity c).imp fun {a b} hab => ?_
    rwa [(hplace a).createdAt, (hplace b).createdAt]
  · rw [hmessages] at hm
    obtain ⟨m', hm', rfl⟩ := List.mem_map.1 hm
    rw [hw.conversations, (hplace m').conversationId, (hplace m').identity]
    exact h.owned m' hm'

/-- What a transaction of `create_chat_run` leaves. -/
lemma committed_eq_some
    (h : s.committed collate order opened asked answered refused = some records) :
    records.chatMessages =
        s.world.records.chatMessages ++ [order.question asked, order.placeholder answered] ∧
      records.chatRuns = s.world.records.chatRuns ++ [order.chatRun] ∧
      records.conversations = Table.upsert (collate ·.id)
        (fun old _ => { old with updatedAt := opened }) (order.conversation opened)
        s.world.records.conversations := by
  unfold committed at h
  split at h
  · cases h
  · simp only [Records.insertChatRun, Option.bind_eq_bind, Option.bind_eq_some_iff] at h
    obtain ⟨first, hfirst, messages, hmessages, runs, hruns, _, -, hrecords⟩ := h
    obtain ⟨-, rfl⟩ := (Table.insert_eq_some _).1 hfirst
    obtain ⟨-, rfl⟩ := (Table.insert_eq_some _).1 hmessages
    obtain ⟨-, rfl⟩ := (Table.insert_eq_some _).1 hruns
    cases hrecords
    exact ⟨by simp, rfl, rfl⟩

/-- The two messages of a question are added to its conversation. -/
lemma filter_append_question (identity : Identity) (conversationId : String)
    (l : List ChatMessage) :
    (l ++ [order.question asked, order.placeholder answered]).filter
        (Exactly identity conversationId) =
      l.filter (Exactly identity conversationId) ++
        if order.identity = identity ∧ order.conversationId = conversationId then
          [order.question asked, order.placeholder answered]
        else [] := by
  rw [List.filter_append]
  by_cases hown : order.identity = identity ∧ order.conversationId = conversationId
  · simp [hown, Exactly, ChatOrder.question, ChatOrder.placeholder]
  · have hnot : (order.identity == identity && order.conversationId == conversationId) = false := by
      simpa using hown
    simp [hown, hnot, Exactly, ChatOrder.question, ChatOrder.placeholder]

/-- The row of a conversation that is used once more, or for the first time. -/
lemma exists_upsert (hown : ∀ row ∈ s.world.records.conversations,
      collate row.id = collate order.conversationId →
        row.id = order.conversationId ∧ row.identity = order.identity) :
    ∃ row ∈ Table.upsert (collate ·.id) (fun old _ => { old with updatedAt := opened })
        (order.conversation opened) s.world.records.conversations,
      row.id = order.conversationId ∧ row.identity = order.identity := by
  unfold Table.upsert
  split
  · rename_i hkey
    obtain ⟨row, hrow, hid⟩ := hkey
    refine ⟨_, List.mem_map_of_mem hrow, ?_⟩
    rw [if_pos hid]
    exact hown row hrow hid
  · exact ⟨_, List.mem_append_right _ (List.mem_singleton_self _), rfl, rfl⟩

/-- No row is lost. -/
lemma exists_upsert_of_mem (collate : String → String) (order : ChatOrder) (opened : ℕ)
    {row : ChatConversation} (hrow : row ∈ s.world.records.conversations) :
    ∃ row' ∈ Table.upsert (collate ·.id) (fun old _ => { old with updatedAt := opened })
        (order.conversation opened) s.world.records.conversations,
      row'.id = row.id ∧ row'.identity = row.identity := by
  unfold Table.upsert
  split
  · refine ⟨_, List.mem_map_of_mem hrow, ?_⟩
    split
    · exact ⟨rfl, rfl⟩
    · exact ⟨rfl, rfl⟩
  · exact ⟨row, List.mem_append_left _ hrow, rfl, rfl⟩

/-- An orderly question keeps the invariant. -/
lemma inv_create (h : s.Inv)
    (horderly : s.Orderly collate (.create order opened asked answered refused))
    (hcommitted : s.committed collate order opened asked answered refused = some records) :
    ChatHistory.Inv ⟨{ s.world with records := records }, s.accepted ++ [order]⟩ := by
  obtain ⟨hown, hlater, hsecond⟩ := horderly
  obtain ⟨hmessages, -, hconversations⟩ := committed_eq_some hcommitted
  refine ⟨fun identity c => ?_, fun identity c => ?_, fun m hm => ?_⟩
  · rw [hmessages, filter_append_question, List.map_append, h.stored identity c]
    by_cases hmine : order.identity = identity ∧ order.conversationId = c
    · simp [expected, hmine, ChatOrder.question, ChatOrder.placeholder]
    · have hnot : (order.identity == identity && order.conversationId == c) = false := by
        simpa using hmine
      simp [expected, hmine, hnot]
  · rw [hmessages, filter_append_question]
    split
    · rename_i hmine
      obtain ⟨rfl, rfl⟩ := hmine
      refine List.pairwise_append.2 ⟨h.later _ _, ?_, fun a ha b hb => ?_⟩
      · simpa [ChatOrder.question, ChatOrder.placeholder] using hsecond
      · obtain ⟨ha, hin⟩ := List.mem_filter.1 ha
        have hbefore := hlater a ha (inConversation_of_exactly hin)
        rcases List.mem_pair.1 hb with rfl | rfl
        · exact hbefore
        · exact hbefore.trans hsecond
    · rw [List.append_nil]
      exact h.later identity c
  · rw [hconversations]
    rw [hmessages, List.mem_append] at hm
    rcases hm with hm | hm
    · obtain ⟨row, hrow, hid, hidentity⟩ := h.owned m hm
      obtain ⟨row', hrow', hid', hidentity'⟩ := exists_upsert_of_mem collate order opened hrow
      exact ⟨row', hrow', hid'.trans hid, hidentity'.trans hidentity⟩
    · rcases List.mem_pair.1 hm with rfl | rfl
      · exact exists_upsert hown
      · exact exists_upsert hown

lemma step_create_of_none (h : s.committed collate order opened asked answered refused = none) :
    s.step collate (.create order opened asked answered refused) = s := by
  simp only [step, h]

lemma step_create_of_some
    (h : s.committed collate order opened asked answered refused = some records) :
    s.step collate (.create order opened asked answered refused) =
      ⟨{ s.world with records := records }, s.accepted ++ [order]⟩ := by
  simp only [step, h]

lemma inv_step {call : ChatCall} (h : s.Inv) (horderly : s.Orderly collate call) :
    (s.step collate call).Inv := by
  cases call with
  | create order opened asked answered refused =>
    cases hcommitted : s.committed collate order opened asked answered refused with
    | none => rwa [step_create_of_none hcommitted]
    | some records =>
      rw [step_create_of_some hcommitted]
      exact inv_create h horderly hcommitted
  | complete identity taskId assistantContent source structuredResultJson failures =>
    exact inv_frame collate h ((effects_completeChatRun ..).exec failures s.world)
  | fail identity taskId errorMessage status failures =>
    exact inv_frame collate h ((effects_failChat ..).exec failures s.world)

/-! ### What the invariant shows -/

/-- Where all times differ, there is one sorted result. -/
lemma Inv.listsMessages (h : s.Inv) {conversationId : String} {result : List ChatMessage}
    (hspelled : s.Spelled collate identity conversationId)
    (hresult : s.ListsMessages collate identity conversationId result) :
    result = s.world.records.chatMessages.filter (Exactly identity conversationId) := by
  obtain ⟨hperm, hsorted⟩ := hresult
  rw [filter_inConversation hspelled] at hperm
  have hlater := h.later identity conversationId
  have hnodup : ((s.world.records.chatMessages.filter
      (Exactly identity conversationId)).map (·.createdAt)).Nodup := by
    rw [List.Nodup, List.pairwise_map]
    exact hlater.imp fun hlt => Nat.ne_of_lt hlt
  refine List.Perm.eq_of_pairwise ?_ hsorted (hlater.imp fun hlt => Nat.le_of_lt hlt) hperm
  intro a b ha hb hab hba
  exact List.inj_on_of_nodup_map hnodup (hperm.mem_iff.1 ha) hb (Nat.le_antisymm hab hba)

/-- A stored row is listed, unless 50 others are. -/
lemma listed_of_mem {result : List ChatConversation} {row : ChatConversation}
    (hresult : s.ListsConversations collate row.identity result)
    (hrow : row ∈ s.world.records.conversations) : Listed row result := by
  obtain ⟨rows, hperm, hsorted, rfl⟩ := hresult
  have hmem : row ∈ rows := hperm.mem_iff.2 (List.mem_filter.2 ⟨hrow, by simp [Identity.same]⟩)
  rw [← List.take_append_drop 50 rows, List.mem_append] at hmem
  rcases hmem with hmem | hmem
  · exact .inl hmem
  · refine .inr ⟨?_, fun r hr => ?_⟩
    · have hlength := List.length_pos_of_mem hmem
      rw [List.length_drop] at hlength
      rw [List.length_take]
      omega
    · rw [← List.take_append_drop 50 rows, List.pairwise_append] at hsorted
      exact hsorted.2.2 r hr row hmem

lemma Inv.complete (h : s.Inv) : s.Complete collate where
  messages identity c hspelled result hresult := by
    rw [h.listsMessages hspelled hresult]
    exact h.stored identity c
  conversations m hm result hresult := by
    obtain ⟨row, hrow, hid, hidentity⟩ := h.owned m hm
    rw [← hidentity] at hresult
    exact ⟨row, hrow, hid, hidentity, listed_of_mem hresult hrow⟩

/-! ### What others see -/

/-- An update of own rows is not seen by others. -/
lemma filter_map_others {ρ : Type} {owner : ρ → Identity} {f : ρ → ρ} {l : List ρ}
    (howner : ∀ row, owner (f row) = owner row)
    (hother : ∀ row ∈ l, owner row ≠ identity → f row = row) :
    (l.map f).filter (owner · != identity) = l.filter (owner · != identity) := by
  induction l with
  | nil => rfl
  | cons row l ih =>
    have hl := ih fun row' hrow' => hother row' (List.mem_cons_of_mem _ hrow')
    rw [List.map_cons, List.filter_cons, List.filter_cons, hl, howner]
    by_cases hrow : owner row = identity
    · simp [hrow]
    · simp [hrow, hother row List.mem_cons_self hrow]

lemma untouched_frame {w : World} (hw : ChatFrame collate identity s.world w)
    (hruns : ∀ run ∈ s.world.records.chatRuns, run.identity.same collate identity = true →
      run.identity = identity)
    (hmessages : ∀ m ∈ s.world.records.chatMessages, m.identity.same collate identity = true →
      m.identity = identity) : s.Untouched identity { s with world := w } := by
  obtain ⟨hconversations, ⟨f, hf, hplace, hother⟩, g, hg, hidentity, hotherg⟩ := hw
  refine ⟨congrArg _ hconversations, ?_, ?_⟩
  · rw [hf]
    refine filter_map_others (fun m => (hplace m).identity) fun m hm hne => hother m ?_
    exact Bool.eq_false_iff.2 fun hsame => hne (hmessages m hm hsame)
  · rw [hg]
    refine filter_map_others hidentity fun run hrun hne => hotherg run ?_
    exact Bool.eq_false_iff.2 fun hsame => hne (hruns run hrun hsame)

lemma untouched_create (hown : ∀ row ∈ s.world.records.conversations,
      collate row.id = collate order.conversationId →
        row.id = order.conversationId ∧ row.identity = order.identity)
    (hcommitted : s.committed collate order opened asked answered refused = some records) :
    s.Untouched order.identity ⟨{ s.world with records := records }, s.accepted ++ [order]⟩ := by
  obtain ⟨hmessages, hruns, hconversations⟩ := committed_eq_some hcommitted
  refine ⟨?_, ?_, ?_⟩
  · rw [hconversations]
    unfold Table.upsert
    split
    · refine filter_map_others (fun row => ?_) fun row hrow hother => ?_
      · split
        · rfl
        · rfl
      · rw [if_neg]
        exact fun hid => hother (hown row hrow hid).2
    · simp [ChatOrder.conversation]
  · simp [hmessages, ChatOrder.question, ChatOrder.placeholder]
  · simp [hruns, ChatOrder.chatRun]

lemma untouched_step {call : ChatCall} (horderly : s.Orderly collate call) :
    s.Untouched call.identity (s.step collate call) := by
  cases call with
  | create order opened asked answered refused =>
    cases hcommitted : s.committed collate order opened asked answered refused with
    | none =>
      rw [step_create_of_none hcommitted]
      exact ⟨rfl, rfl, rfl⟩
    | some records =>
      rw [step_create_of_some hcommitted]
      exact untouched_create horderly.1 hcommitted
  | complete identity taskId assistantContent source structuredResultJson failures =>
    exact untouched_frame ((effects_completeChatRun ..).exec failures s.world) horderly.1
      horderly.2
  | fail identity taskId errorMessage status failures =>
    exact untouched_frame ((effects_failChat ..).exec failures s.world) horderly.1 horderly.2

end ChatHistory

/-! ### Whole runs -/

open ChatHistory

/-- In every sequence of calls in which ids are spelled in one way, no question uses a conversation
of another identity and no two messages of a conversation are stored in the same second: after each
call everybody sees the own messages in order and the own conversations, and no call changes what
is another's. -/
theorem history_of_orderly (collate : String → String) (calls : List ChatCall)
    (h : Along (step collate) (Orderly collate) init calls) :
    (∀ done, done <+: calls → (run (step collate) init done).Complete collate) ∧
      ∀ done call, done ++ [call] <+: calls →
        (run (step collate) init done).Untouched call.identity
          (run (step collate) init (done ++ [call])) := by
  constructor
  · rintro done ⟨rest, rfl⟩
    rw [along_append] at h
    exact (run_invariant (I := Inv) (fun _ _ => inv_step) inv_init h.1).complete
  · rintro done call ⟨rest, rfl⟩
    rw [along_append, along_append] at h
    rw [run_append]
    exact untouched_step h.1.2.1

/-- A collation that takes small and capital letters for the same. -/
def lowered (id : String) : String := String.ofList (id.toList.map Char.toLower)

/-- A first question. -/
def firstQuestion : ChatOrder where
  identity := ⟨"tenant-1", "user-1", "shop-1"⟩
  conversationId := "conversation-1"
  userContent := "今天的销售额是多少"
  intent := "daily_report"
  taskId := "task-1"
  ids := ⟨"run-1", "question-1", "answer-1"⟩

/-- It is asked in one second, gets its placeholder in the next one, and is answered. -/
def slowQuestion : List ChatCall :=
  [.create firstQuestion 100 100 101 false,
    .complete firstQuestion.identity "task-1" "今天的销售额是 100 元" .agent none []]

lemma orderly_slowQuestion : Along (step lowered) (Orderly lowered) init slowQuestion := by
  refine ⟨⟨fun _ h => absurd h List.not_mem_nil, fun _ h => absurd h List.not_mem_nil,
    by decide⟩, ⟨?_, ?_⟩, trivial⟩
  · decide +kernel
  · decide +kernel

theorem history_slowQuestion : Along (step lowered) (Orderly lowered) init slowQuestion ∧
    (∀ done, done <+: slowQuestion → (run (step lowered) init done).Complete lowered) ∧
      ∀ done call, done ++ [call] <+: slowQuestion →
        (run (step lowered) init done).Untouched call.identity
          (run (step lowered) init (done ++ [call])) :=
  ⟨orderly_slowQuestion, history_of_orderly lowered slowQuestion orderly_slowQuestion⟩

/-- The usual question, which is stored within one second, may be listed below its answer. -/
theorem not_complete_sameSecond :
    ¬(run (step lowered) init [.create firstQuestion 100 100 100 false]).Complete lowered := by
  intro h
  have hstored : (run (step lowered) init
      [.create firstQuestion 100 100 100 false]).world.records.chatMessages =
        [firstQuestion.question 100, firstQuestion.placeholder 100] := by
    decide +kernel
  have hspelled : (run (step lowered) init [.create firstQuestion 100 100 100 false]).Spelled
      lowered firstQuestion.identity "conversation-1" := by
    unfold Spelled
    rw [hstored]
    decide +kernel
  have hfilter : [firstQuestion.question 100, firstQuestion.placeholder 100].filter
      (InConversation lowered firstQuestion.identity "conversation-1") =
        [firstQuestion.question 100, firstQuestion.placeholder 100] := by
    decide +kernel
  have hids := h.messages _ _ hspelled [firstQuestion.placeholder 100, firstQuestion.question 100]
    ⟨by rw [hstored, hfilter]; exact List.Perm.swap .., by
      simp [ChatOrder.placeholder, ChatOrder.question]⟩
  have hexpected : (run (step lowered) init [.create firstQuestion 100 100 100 false]).expected
      firstQuestion.identity "conversation-1" = ["question-1", "answer-1"] := by
    decide +kernel
  rw [hexpected] at hids
  revert hids
  decide

end EcommerceAgent.Runtime
