import CircleStdlib.KeepAliveTimer

/-!
The assertions that speak of the connection: those on the socket, on the status
and on the timer, in `Connect`, `SendPacket`, `CloseConnection` and
`KeepAliveHandler`. No operation fails one of them while the socket and the status
agree, the queue holds what it may hold and the timer runs only when it may.
Assertions on arguments and on packet contents are a different matter.
-/

namespace CircleStdlib.Mqtt

open Checked

def Fault.guarded : Fault → Bool
  | .nullSocket | .socketOpen | .pingWithoutKeepAlive | .pingNotConnected | .timerRunning
  | .notWaitingForPing | .unexpectedType => true
  | _ => false

namespace SendPacket

theorem put_spares (packet : SendPacket) (uchValue : UInt8) :
    Spares Fault.guarded (packet.put uchValue) := by
  unfold put
  apply spares_bind _ _ _ (spares_require _ _ _ (Or.inl rfl))
  intro _ _
  apply spares_bind _ _ _ (spares_require _ _ _ (Or.inl rfl))
  intro _ _
  exact spares_ok _ _

theorem copyIn_spares (packet : SendPacket) (bytes : List UInt8) :
    Spares Fault.guarded (packet.copyIn bytes) := by
  unfold copyIn
  apply spares_bind _ _ _ (spares_require _ _ _ (Or.inl rfl))
  intro _ _
  apply spares_bind _ _ _ (spares_require _ _ _ (Or.inl rfl))
  intro _ _
  exact spares_ok _ _

theorem store_spares (packet : SendPacket) (field : Field) :
    Spares Fault.guarded (packet.store field) := by
  cases field with
  | byte uchValue => exact put_spares packet uchValue
  | word usValue =>
      apply spares_bind _ _ _ (put_spares packet _)
      intro middle _
      exact put_spares middle _
  | string pString =>
      apply spares_bind _ _ _ (put_spares packet _)
      intro first _
      apply spares_bind _ _ _ (put_spares first _)
      intro second _
      split
      · exact copyIn_spares second _
      · exact spares_ok _ _
  | data bytes =>
      simp only [store]
      split
      · exact copyIn_spares packet bytes
      · exact spares_ok _ _

theorem storeUnless_spares (packet : SendPacket) (refused : Prop) [Decidable refused]
    (field : Field) : Spares Fault.guarded (packet.storeUnless refused field) := by
  unfold storeUnless
  split
  · exact spares_ok _ _
  · split
    · exact spares_ok _ _
    · exact store_spares packet field

theorem appendByte_spares (packet : SendPacket) (uchValue : UInt8) :
    Spares Fault.guarded (packet.appendByte uchValue) :=
  storeUnless_spares packet _ (.byte uchValue)

theorem appendWord_spares (packet : SendPacket) (usValue : UInt16) :
    Spares Fault.guarded (packet.appendWord usValue) :=
  storeUnless_spares packet _ (.word usValue)

theorem appendString_spares (platform : Platform) (packet : SendPacket) (pString : List UInt8) :
    Spares Fault.guarded (packet.appendString platform pString) :=
  storeUnless_spares packet _ (.string pString)

theorem appendData_spares (platform : Platform) (packet : SendPacket) (data : List UInt8) :
    Spares Fault.guarded (packet.appendData platform data) :=
  storeUnless_spares packet _ (.data data)

theorem setFlags_spares (packet : SendPacket) (uchFlags : UInt8) :
    Spares Fault.guarded (packet.setFlags uchFlags) := by
  unfold setFlags
  apply spares_bind _ _ _ (spares_require _ _ _ (Or.inl rfl))
  intro _ _
  apply spares_bind _ _ _ (spares_require _ _ _ (Or.inl rfl))
  intro _ _
  exact spares_ok _ _

theorem encodeLength_spares (nTempLength : Nat) (encoded : List UInt8) (fuel : Nat) :
    Spares Fault.guarded (encodeLength nTempLength encoded fuel) := by
  induction fuel generalizing nTempLength encoded with
  | zero => exact spares_error _ _ rfl
  | succ fuel ih =>
      unfold encodeLength
      apply spares_bind _ _ _ (spares_require _ _ _ (Or.inl rfl))
      intro _ _
      split
      · exact ih _ _
      · exact spares_ok _ _

theorem send_spares (packet : SendPacket) (socket : List UInt8 → Int) :
    Spares Fault.guarded (packet.send socket) := by
  unfold send
  split
  · exact spares_ok _ _
  · split
    · exact spares_ok _ _
    · apply spares_bind _ _ _ (spares_require _ _ _ (Or.inl rfl))
      intro _ _
      apply spares_bind _ _ _ (encodeLength_spares _ _ _)
      intro encoded _
      apply spares_bind _ _ _ (spares_require _ _ _ (Or.inl rfl))
      intro _ _
      apply spares_bind _ _ _ (spares_require _ _ _ (Or.inl rfl))
      intro _ _
      apply spares_bind _ _ _ (spares_require _ _ _ (Or.inl rfl))
      intro _ _
      exact spares_ok _ _

end SendPacket

namespace Client

def Clocked (client : Client) : Prop :=
  client.timerRunning = true → client.keepAliveSeconds > 0 ∧ client.isConnected = true

theorem closeConnection_spares (client : Client) (reason : DisconnectReason)
    (linked : client.Linked) : Spares Fault.guarded (client.closeConnection reason) := by
  rcases client.closeConnection_total reason linked with ⟨next, done⟩
  rw [done]
  exact spares_ok _ _

def Sendable (client : Client) (type : PacketType) : Prop :=
  restartsTimer type = true ∨ type = .disconnect ∨
    (type = .pingReq ∧ client.keepAliveSeconds > 0 ∧ client.status = .connected ∧
      client.timerRunning = false)

theorem keepAlive_spares (platform : Platform) (client : Client) (type : PacketType)
    (ticks : UInt32) (sendable : client.Sendable type) :
    Spares Fault.guarded (client.keepAlive platform type ticks) := by
  rcases sendable with restarts | rfl | ⟨rfl, period, connected, stopped⟩
  · rcases client.keepAlive_total platform type ticks restarts with ⟨next, done⟩
    rw [done]
    exact spares_ok _ _
  · exact spares_ok _ _
  · unfold keepAlive
    apply spares_bind _ _ _ (spares_require _ _ _ (Or.inr period))
    intro _ _
    apply spares_bind _ _ _ (spares_require _ _ _ (Or.inr connected))
    intro _ _
    apply spares_bind _ _ _ (spares_require _ _ _ (Or.inr stopped))
    intro _ _
    exact spares_ok _ _

theorem sendPacket_spares (platform : Platform) (client : Client) (packet : SendPacket)
    (input : SendInput) (linked : client.Linked) (sendable : client.Sendable packet.type) :
    Spares Fault.guarded (client.sendPacket platform packet input) := by
  unfold sendPacket
  split
  · exact spares_ok _ _
  · rename_i online
    apply spares_bind _ _ _ (spares_require _ _ _ (Or.inr (linked.mpr online)))
    intro _ _
    apply spares_bind _ _ _ (packet.send_spares input.socket)
    intro sending _
    dsimp only
    split
    · have same : (client.recordHanded sending).Sendable packet.type := by
        unfold recordHanded
        split
        · exact sendable
        · exact sendable
      apply spares_bind _ _ _ (keepAlive_spares platform _ packet.type input.timerTicks same)
      intro _ _
      exact spares_ok _ _
    · exact spares_ok _ _

theorem sendAndQueue_spares (platform : Platform) (client : Client) (packet : SendPacket)
    (uchQoS : UInt8) (usPacketIdentifier : UInt16) (input : SendInput) (linked : client.Linked)
    (restarts : restartsTimer packet.type = true) :
    Spares Fault.guarded
      (client.sendAndQueue platform packet uchQoS usPacketIdentifier input) := by
  unfold sendAndQueue
  apply spares_bind _ _ _ (sendPacket_spares platform client packet input linked (Or.inl restarts))
  rintro ⟨sent, after, middle⟩ done
  have framed := client.sendPacket_framed platform middle packet after input sent done
  dsimp only
  split
  · split <;> exact spares_ok _ _
  · exact closeConnection_spares middle _ (linked_framed client middle framed linked)

/-! The packets of the public operations. -/

theorem subscribePacket_spares (config : Config) (usPacketIdentifier : UInt16)
    (pTopic : List UInt8) (uchQoS : UInt8) (memory : Option (Nat → UInt8)) :
    Spares Fault.guarded (subscribePacket config usPacketIdentifier pTopic uchQoS memory) := by
  unfold subscribePacket
  apply spares_bind _ _ _ (SendPacket.appendWord_spares _ _)
  intro numbered _
  apply spares_bind _ _ _ (numbered.appendString_spares _ _)
  intro named _
  exact named.appendByte_spares _

theorem unsubscribePacket_spares (config : Config) (usPacketIdentifier : UInt16)
    (pTopic : List UInt8) (memory : Option (Nat → UInt8)) :
    Spares Fault.guarded (unsubscribePacket config usPacketIdentifier pTopic memory) := by
  unfold unsubscribePacket
  apply spares_bind _ _ _ (SendPacket.appendWord_spares _ _)
  intro numbered _
  exact numbered.appendString_spares _ _

theorem publishPacket_spares (config : Config) (usPacketIdentifier : UInt16)
    (pTopic payload : List UInt8) (uchQoS : UInt8) (bRetain : Bool)
    (memory : Option (Nat → UInt8)) :
    Spares Fault.guarded
      (publishPacket config usPacketIdentifier pTopic payload uchQoS bRetain memory) := by
  unfold publishPacket
  apply spares_bind _ _ _ (SendPacket.setFlags_spares _ _)
  intro flagged _
  apply spares_bind _ _ _ (flagged.appendString_spares _ _)
  intro named _
  apply spares_bind _ _ _ (named.appendWord_spares _)
  intro numbered _
  split
  · exact numbered.appendData_spares _ _
  · exact spares_ok _ _

theorem appendWill_spares (config : Config) (packet : SendPacket) (request : ConnectRequest) :
    Spares Fault.guarded (appendWill config packet request) := by
  unfold appendWill
  split
  · exact spares_ok _ _
  · apply spares_bind _ _ _ (packet.appendString_spares _ _)
    intro titled _
    apply spares_bind _ _ _ (spares_require _ _ _ (Or.inl rfl))
    intro _ _
    apply spares_bind _ _ _ (titled.appendWord_spares _)
    intro sized _
    split
    · exact sized.appendData_spares _ _
    · exact spares_ok _ _

theorem appendLogin_spares (config : Config) (packet : SendPacket) (request : ConnectRequest) :
    Spares Fault.guarded (appendLogin config packet request) := by
  unfold appendLogin
  split
  · exact spares_ok _ _
  · apply spares_bind _ _ _ (packet.appendString_spares _ _)
    intro named _
    split
    · exact spares_ok _ _
    · exact named.appendString_spares _ _

theorem connectPacket_spares (config : Config) (request : ConnectRequest) (input : ConnectInput) :
    Spares Fault.guarded (connectPacket config request input) := by
  unfold connectPacket
  apply spares_bind _ _ _ (spares_require _ _ _ (Or.inl rfl))
  intro _ _
  apply spares_bind _ _ _ (SendPacket.appendString_spares _ _ _)
  intro titled _
  apply spares_bind _ _ _ (titled.appendByte_spares _)
  intro levelled _
  apply spares_bind _ _ _ (levelled.appendByte_spares _)
  intro flagged _
  apply spares_bind _ _ _ (flagged.appendWord_spares _)
  intro timed _
  apply spares_bind _ _ _ (timed.appendString_spares _ _)
  intro named _
  apply spares_bind _ _ _ (appendWill_spares config named request)
  intro willed _
  exact appendLogin_spares config willed request

theorem appendWill_same (config : Config) (packet next : SendPacket) (request : ConnectRequest)
    (built : appendWill config packet request = .ok next) : packet.SameHeader next := by
  unfold appendWill at built
  split at built
  · cases built
    exact SendPacket.sameHeader_refl packet
  · simp only [bind_ok, require_ok] at built
    rcases built with ⟨titled, first, _, -, sized, second, third⟩
    have same := (packet.appendString_same _ titled _ first).trans
      (titled.appendWord_same sized _ second)
    split at third
    · exact same.trans (sized.appendData_same _ next _ third)
    · cases third
      exact same

theorem appendLogin_same (config : Config) (packet next : SendPacket) (request : ConnectRequest)
    (built : appendLogin config packet request = .ok next) : packet.SameHeader next := by
  unfold appendLogin at built
  split at built
  · cases built
    exact SendPacket.sameHeader_refl packet
  · simp only [bind_ok] at built
    rcases built with ⟨named, first, second⟩
    have same := packet.appendString_same _ named _ first
    split at second
    · cases second
      exact same
    · exact same.trans (named.appendString_same _ next _ second)

theorem connectPacket_same (config : Config) (request : ConnectRequest) (input : ConnectInput)
    (packet : SendPacket) (built : connectPacket config request input = .ok packet) :
    (SendPacket.create .connect config.maxPacketSize input.send.memory).SameHeader packet := by
  simp only [connectPacket, bind_ok] at built
  rcases built with ⟨_, -, titled, title, levelled, level, flagged, flag, timed, time, named, name,
    willed, will, login⟩
  have head := (((SendPacket.appendString_same _ _ titled _ title).trans
    (titled.appendByte_same levelled _ level)).trans
    (levelled.appendByte_same flagged _ flag)).trans (flagged.appendWord_same timed _ time)
  have tail := ((timed.appendString_same _ named _ name).trans
    (appendWill_same config named willed request will)).trans
    (appendLogin_same config willed packet request login)
  exact head.trans tail

/-! The operations. -/

theorem connect_spares (config : Config) (client : Client) (request : ConnectRequest)
    (input : ConnectInput) (linked : client.Linked) (offline : client.status = .disconnected) :
    Spares Fault.guarded (client.connect config request input) := by
  have shut : client.socket = false := by
    by_contra open_
    exact linked.mp (by simpa using open_) offline
  unfold connect
  apply spares_bind _ _ _ (spares_require _ _ _ (Or.inr offline))
  intro _ _
  split
  · exact spares_ok _ _
  · split
    · exact spares_ok _ _
    · apply spares_bind _ _ _ (spares_require _ _ _ (Or.inr shut))
      intro _ _
      split
      · exact spares_ok _ _
      · split
        · exact spares_ok _ _
        · have again : (client.opened request.keepAliveSeconds).Linked := by
            simp [Linked, opened]
          apply spares_bind _ _ _ (connectPacket_spares config request input)
          intro packet built
          have type := (connectPacket_same config request input packet built).type
          have sendable : (client.opened request.keepAliveSeconds).Sendable packet.type :=
            Or.inl (by rw [type]; rfl)
          apply spares_bind _ _ _ (sendPacket_spares _ _ packet input.send again sendable)
          rintro ⟨sent, after, middle⟩ done
          have framed := sendPacket_framed config.toPlatform _ middle packet after input.send sent
            done
          dsimp only
          split
          · exact spares_ok _ _
          · exact closeConnection_spares middle _ (linked_framed _ middle framed again)

theorem disconnect_spares (config : Config) (client : Client) (bForce : Bool) (input : SendInput)
    (linked : client.Linked) : Spares Fault.guarded (client.disconnect config bForce input) := by
  unfold disconnect
  split
  · exact closeConnection_spares client _ linked
  · apply spares_bind _ _ _ (sendPacket_spares _ client _ input linked (Or.inr (Or.inl rfl)))
    rintro ⟨sent, after, middle⟩ done
    have framed := sendPacket_framed config.toPlatform client middle _ after input sent done
    exact closeConnection_spares middle _ (linked_framed client middle framed linked)

theorem subscribe_spares (config : Config) (client : Client) (pTopic : List UInt8)
    (uchQoS : UInt8) (input : SendInput) (linked : client.Linked) :
    Spares Fault.guarded (client.subscribe config pTopic uchQoS input) := by
  unfold subscribe
  apply spares_bind _ _ _ (spares_require _ _ _ (Or.inl rfl))
  intro _ _
  apply spares_bind _ _ _ (subscribePacket_spares _ _ _ _ _)
  intro packet built
  have type := subscribePacket_type config _ _ _ _ packet built
  exact sendAndQueue_spares _ client.advanceIdentifier packet 1 _ input linked (by rw [type]; rfl)

theorem unsubscribe_spares (config : Config) (client : Client) (pTopic : List UInt8)
    (input : SendInput) (linked : client.Linked) :
    Spares Fault.guarded (client.unsubscribe config pTopic input) := by
  unfold unsubscribe
  apply spares_bind _ _ _ (unsubscribePacket_spares _ _ _ _)
  intro packet built
  have type := unsubscribePacket_type config _ _ _ packet built
  exact sendAndQueue_spares _ client.advanceIdentifier packet 1 _ input linked (by rw [type]; rfl)

theorem publish_spares (config : Config) (client : Client) (pTopic payload : List UInt8)
    (uchQoS : UInt8) (bRetain : Bool) (input : SendInput) (linked : client.Linked) :
    Spares Fault.guarded (client.publish config pTopic payload uchQoS bRetain input) := by
  unfold publish
  apply spares_bind _ _ _ (spares_require _ _ _ (Or.inl rfl))
  intro _ _
  apply spares_bind _ _ _ (publishPacket_spares _ _ _ _ _ _ _)
  intro packet built
  have type := publishPacket_type config _ _ _ _ _ _ packet built
  exact sendAndQueue_spares _ client.advanceIdentifier packet uchQoS _ input linked
    (by rw [type]; rfl)

theorem markRepeated_spares (packet : SendPacket) :
    Spares Fault.guarded (markRepeated packet) := by
  unfold markRepeated
  split
  · exact packet.setFlags_spares _
  · exact spares_ok _ _

-- The induction is on the inputs; what is left of the queue stays queueable.
theorem senderLoop_spares (platform : Platform) (nTicks : UInt32) (client : Client)
    (passed ahead : List SendPacket) (inputs : List SendInput) (linked : client.Linked)
    (fits : ∀ packet ∈ passed ++ ahead, restartsTimer packet.type = true) :
    Spares Fault.guarded (client.senderLoop platform nTicks passed ahead inputs) := by
  induction inputs generalizing client passed ahead with
  | nil =>
      unfold senderLoop
      split
      · exact spares_ok _ _
      · split <;> exact spares_ok _ _
  | cons input inputs ih =>
      unfold senderLoop
      split
      · exact spares_ok _ _
      · rename_i due rest
        split
        · exact spares_ok _ _
        · have restarts := fits due (by simp)
          apply spares_bind _ _ _ (markRepeated_spares due)
          intro packet marked
          have type := (markRepeated_same due packet marked).1
          have queue : (client.withQueue (passed ++ rest)).Linked := linked
          apply spares_bind _ _ _ (sendPacket_spares platform _ packet input queue
            (Or.inl (by rw [type]; exact restarts)))
          rintro ⟨sent, after, middle⟩ done
          have framed := sendPacket_framed platform _ middle packet after input sent done
          have stays := linked_framed _ middle framed queue
          dsimp only
          split
          · apply ih middle _ _ stays
            intro other member
            rcases List.mem_cons.mp ((reinsert_perm _ passed rest).mem_iff.mp member) with
              rfl | old
            · have same := (sendPacket_after platform _ middle packet after input sent done).1
              change restartsTimer after.type = true
              rw [same, type]
              exact restarts
            · refine fits other ?_
              simp only [List.mem_append, List.mem_cons] at old ⊢
              exact old.imp_right Or.inr
          · apply spares_bind _ _ _ (closeConnection_spares middle _ stays)
            intro closed _
            exact spares_ok _ _

theorem keepAliveHandler_spares (platform : Platform) (client : Client) (ticks : UInt32)
    (input : SendInput) (linked : client.Linked) (clocked : client.Clocked) :
    Spares Fault.guarded (client.keepAliveHandler platform ticks input) := by
  unfold keepAliveHandler
  split
  · rename_i elapsed
    rcases clocked elapsed.1 with ⟨period, connected⟩
    have stopped : client.stopTimer.Linked := linked
    dsimp only
    split
    · rename_i established
      have sendable : client.stopTimer.Sendable PacketType.pingReq :=
        Or.inr (Or.inr ⟨rfl, period, established, rfl⟩)
      apply spares_bind _ _ _ (sendPacket_spares platform _ _ input stopped sendable)
      rintro ⟨sent, after, middle⟩ done
      have framed := sendPacket_framed platform _ middle _ after input sent done
      dsimp only
      split
      · exact spares_ok _ _
      · exact closeConnection_spares middle _ (linked_framed _ middle framed stopped)
    · rename_i other
      have established : ¬ client.status = .connected := other
      have waiting : client.status = .waitForPingResp := by
        simpa [isConnected, established] using connected
      apply spares_bind _ _ _ (spares_require _ _ _ (Or.inr waiting))
      intro _ _
      exact closeConnection_spares _ _ stopped
  · exact spares_ok _ _

/-- In `Receiver` nothing but the assertion on the length of a packet can fail. -/
theorem receiverPass_spares (config : Config) (client : Client)
    (input : ReceiveInput config.toPlatform) (sound : Sound config client) :
    Spares Fault.guarded (client.receiverPass config input) := by
  by_cases cut : ∃ first rest, client.front config input = some (first, rest) ∧
      CutIdentifier config.topicLimit first
  · rcases cut with ⟨first, rest, there, cut⟩
    rw [client.receiverPass_fails config input first rest sound there cut]
    exact spares_error _ _ rfl
  · rcases client.receiverPass_returns config input sound
      (fun first rest there short => cut ⟨first, rest, there, short⟩) with ⟨more, next, done⟩
    rw [done]
    exact spares_ok _ _

end Client

end CircleStdlib.Mqtt
