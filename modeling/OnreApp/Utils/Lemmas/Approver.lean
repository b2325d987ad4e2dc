import OnreApp.Utils.Impl.Approver

namespace OnreApp

open Checked

section Parser

def le16 (data : Bytes) (i : Nat) : Nat :=
  LittleEndian.decode [data.getD i 0, data.getD (i + 1) 0]

def bytesAt (data : Bytes) (offset size : Nat) : Bytes := (data.drop offset).take size

structure Ed25519WellFormed (data : Bytes) : Prop where
  header : 16 ≤ data.length
  sigCount : data.getD 0 0 = 1
  sigIxIndex : le16 data 4 = 65535
  pubkeyIxIndex : le16 data 8 = 65535
  msgIxIndex : le16 data 14 = 65535
  signature : le16 data 2 + 64 ≤ data.length
  pubkey : le16 data 6 + 32 ≤ data.length
  message : le16 data 10 + le16 data 12 ≤ data.length

variable {data : Bytes}

namespace parseEd25519Ix

theorem byteAt_eq {i : Nat} (h : i < data.length) : byteAt data i = .ok (data.getD i 0) := by
  unfold byteAt
  rw [List.getD_eq_getElem?_getD]
  rw [List.getElem?_eq_getElem h]
  rfl

theorem u16At_eq {i : Nat} (h : i + 1 < data.length) : u16At data i = .ok (le16 data i) := by
  unfold u16At
  rw [byteAt_eq (by omega), ok_bind]
  rw [byteAt_eq h, ok_bind]
  rfl

theorem slice_eq {start size : Nat} (h : start + size ≤ data.length)
    : slice data start (start + size) = .ok (bytesAt data start size) := by
  unfold slice bytesAt
  rw [if_pos (by omega)]
  rw [Nat.add_sub_cancel_left]
  rfl

theorem length_bytesAt {start size : Nat} (h : start + size ≤ data.length)
    : (bytesAt data start size).length = size := by
  unfold bytesAt
  rw [List.length_take, List.length_drop]
  omega

theorem copyFromSlice_eq {n : Nat} {bytes : Bytes} (h : bytes.length = n)
    : ∃ (v : Vector UInt8 n), copyFromSlice n bytes = .ok v ∧ v.toList = bytes := by
  unfold copyFromSlice
  rw [dif_pos h]
  exact ⟨_, rfl, rfl⟩

theorem parts_eq (sigCount : UInt8) (hheader : 16 ≤ data.length)
    (hsignature : le16 data 2 + 64 ≤ data.length) (hpubkey : le16 data 6 + 32 ≤ data.length)
    (hmessage : le16 data 10 + le16 data 12 ≤ data.length)
    : ∃ (pubkey : PubkeyBytes),
        pubkey.toList = bytesAt data (le16 data 6) 32 ∧
        parts data sigCount
          = .ok (some ⟨sigCount, pubkey, bytesAt data (le16 data 10) (le16 data 12)⟩) := by
  rcases copyFromSlice_eq (length_bytesAt hsignature) with ⟨signature, hcopied, _⟩
  rcases copyFromSlice_eq (length_bytesAt hpubkey) with ⟨pubkey, hkey, hbytes⟩
  refine ⟨pubkey, hbytes, ?_⟩
  unfold parts
  rw [u16At_eq (by omega), ok_bind, u16At_eq (by omega), ok_bind]
  rw [u16At_eq (by omega), ok_bind, u16At_eq (by omega), ok_bind]
  rw [if_neg (by omega), slice_eq hsignature, ok_bind, hcopied, ok_bind]
  rw [if_neg (by omega), slice_eq hpubkey, ok_bind, hkey, ok_bind]
  rw [if_neg (by omega), slice_eq hmessage, ok_bind]
  rfl

theorem parts_eq_none {sigCount : UInt8} (hheader : 16 ≤ data.length)
    (h : ¬(le16 data 2 + 64 ≤ data.length ∧ le16 data 6 + 32 ≤ data.length ∧
      le16 data 10 + le16 data 12 ≤ data.length))
    : parts data sigCount = .ok none := by
  unfold parts
  rw [u16At_eq (by omega), ok_bind, u16At_eq (by omega), ok_bind]
  rw [u16At_eq (by omega), ok_bind, u16At_eq (by omega), ok_bind]
  split
  . rfl
  . next hsignature =>
    have hsignature : le16 data 2 + 64 ≤ data.length := by omega
    rcases copyFromSlice_eq (length_bytesAt hsignature) with ⟨_, hcopied, _⟩
    rw [slice_eq hsignature, ok_bind, hcopied, ok_bind]
    split
    . rfl
    . next hpubkey =>
      have hpubkey : le16 data 6 + 32 ≤ data.length := by omega
      rcases copyFromSlice_eq (length_bytesAt hpubkey) with ⟨_, hkey, _⟩
      rw [slice_eq hpubkey, ok_bind, hkey, ok_bind]
      rw [if_pos (by omega)]
      rfl

end parseEd25519Ix

open parseEd25519Ix in
theorem parseEd25519Ix_eq_some (h : Ed25519WellFormed data)
    : ∃ (pubkey : PubkeyBytes),
        pubkey.toList = bytesAt data (le16 data 6) 32 ∧
        parseEd25519Ix data
          = .ok (some ⟨1, pubkey, bytesAt data (le16 data 10) (le16 data 12)⟩) := by
  have hheader := h.header
  rcases parts_eq 1 h.header h.signature h.pubkey h.message with ⟨pubkey, hbytes, hparts⟩
  refine ⟨pubkey, hbytes, ?_⟩
  unfold parseEd25519Ix
  rw [if_neg (by omega)]
  rw [byteAt_eq (by omega), ok_bind, h.sigCount]
  rw [if_neg (by simp)]
  rw [u16At_eq (by omega), ok_bind, u16At_eq (by omega), ok_bind, u16At_eq (by omega), ok_bind]
  rw [h.sigIxIndex, h.pubkeyIxIndex, h.msgIxIndex]
  rw [if_neg (by simp [u16Max])]
  exact hparts

open parseEd25519Ix in
theorem parseEd25519Ix_eq_none (h : ¬Ed25519WellFormed data) : parseEd25519Ix data = .ok none := by
  unfold parseEd25519Ix
  split
  . rfl
  . next hheader =>
    rw [byteAt_eq (by omega), ok_bind]
    split
    . rfl
    . next hcount =>
      rw [u16At_eq (by omega), ok_bind, u16At_eq (by omega), ok_bind, u16At_eq (by omega), ok_bind]
      split
      . rfl
      . next hindex =>
        rw [not_or, not_or, not_not, not_not, not_not] at hindex
        rcases hindex with ⟨hsig, hpubkey, hmsg⟩
        apply parts_eq_none (by omega)
        rintro ⟨hsignature, hkey, hmessage⟩
        apply h
        exact ⟨by omega, not_not.mp hcount, hsig, hpubkey, hmsg, hsignature, hkey, hmessage⟩

theorem parseEd25519Ix_iff (data : Bytes) (parsed : ParsedEd25519)
    : parseEd25519Ix data = .ok (some parsed) ↔
        Ed25519WellFormed data ∧ parsed.sigCount = 1 ∧
          parsed.pubkey.toList = bytesAt data (le16 data 6) 32 ∧
          parsed.message = bytesAt data (le16 data 10) (le16 data 12) := by
  by_cases h : Ed25519WellFormed data
  . rcases parseEd25519Ix_eq_some h with ⟨pubkey, hbytes, hparse⟩
    rw [hparse]
    constructor
    . rintro ⟨⟩
      exact ⟨h, rfl, hbytes, rfl⟩
    . rintro ⟨_, hcount, hkey, hmessage⟩
      rcases parsed with ⟨sigCount, pubkey', message⟩
      dsimp only at hcount hkey hmessage
      have : pubkey' = pubkey := Vector.toList_inj.mp (hkey.trans hbytes.symm)
      rw [hcount, this, hmessage]
  . rw [parseEd25519Ix_eq_none h]
    constructor
    . rintro ⟨⟩
    . rintro ⟨hwell, _⟩
      exact absurd hwell h

end Parser

section Message

namespace ApprovalMessage

theorem readPubkey_eq_some {bytes rest : Bytes} {key : PubkeyBytes}
    : readPubkey bytes = some (key, rest) ↔ bytes = key.toList ++ rest := by
  unfold readPubkey
  constructor
  . intro h
    split at h
    . next hlength =>
      cases h
      simp
    . cases h
  . intro h
    have hlength : key.toList.length = 32 := Vector.length_toList
    rw [dif_pos (by rw [h, List.length_append]; omega)]
    rw [Option.some.injEq, Prod.mk.injEq]
    constructor
    . apply Vector.toList_inj.mp
      show (bytes.take 32) = key.toList
      rw [h, List.take_left' hlength]
    . rw [h, List.drop_left' hlength]

theorem readU64_eq_some {bytes rest : Bytes} {n : UInt64}
    : readU64 bytes = some (n, rest) ↔ bytes = LittleEndian.encode 8 n.toNat ++ rest := by
  unfold readU64
  constructor
  . intro h
    split at h
    . next hlength =>
      cases h
      have htake : (bytes.take 8).length = 8 := by
        rw [List.length_take]
        omega
      have hlt := LittleEndian.decode_lt (bytes.take 8)
      have hround := LittleEndian.encode_decode (bytes.take 8)
      rw [htake] at hlt hround
      rw [UInt64.toNat_ofNat_of_lt' hlt, hround, List.take_append_drop]
    . cases h
  . intro h
    have hlength := LittleEndian.length_encode 8 n.toNat
    rw [if_pos (by rw [h, List.length_append]; omega)]
    rw [h, List.take_left' hlength, List.drop_left' hlength]
    rw [LittleEndian.decode_encode_of_lt n.toNat_lt, UInt64.ofNat_toNat]

theorem tryFromSlice_eq_some {bytes : Bytes} {msg : ApprovalMessage}
    : tryFromSlice bytes = some msg ↔ bytes = msg.serialize := by
  rcases msg with ⟨programId, userPubkey, expiryUnix⟩
  simp only [tryFromSlice, Option.bind_eq_bind, Option.bind_eq_some_iff, Prod.exists,
    readPubkey_eq_some, readU64_eq_some, serialize]
  constructor
  . rintro ⟨_, _, rfl, _, _, rfl, _, rest, rfl, h⟩
    split at h
    . next hrest =>
      cases h
      rw [hrest, List.append_nil]
    . cases h
  . intro h
    refine ⟨programId, _, h, userPubkey, _, rfl, expiryUnix, [], ?_, rfl⟩
    rw [List.append_nil]

theorem serialize_injective {msg msg' : ApprovalMessage} (h : msg.serialize = msg'.serialize)
    : msg = msg' := by
  have hmsg := tryFromSlice_eq_some.mpr h
  have hmsg' := tryFromSlice_eq_some.mpr (rfl : msg.serialize = msg.serialize)
  rw [hmsg] at hmsg'
  exact (Option.some.inj hmsg').symm

end ApprovalMessage

end Message

section Verify

variable {clock : Clock} {programId userPubkey approver1 approver2 : PubkeyBytes}
  {tx : Transaction} {msg : ApprovalMessage}

def IsApprover (approver1 approver2 key : PubkeyBytes) : Prop :=
  key ≠ .default ∧ (key = approver1 ∨ key = approver2)

theorem isApprover_iff {key : PubkeyBytes}
    : (approver1 ≠ .default ∧ key = approver1 ∨ approver2 ≠ .default ∧ key = approver2) ↔
        IsApprover approver1 approver2 key := by
  unfold IsApprover
  constructor
  . rintro (⟨hset, rfl⟩ | ⟨hset, rfl⟩)
    . exact ⟨hset, .inl rfl⟩
    . exact ⟨hset, .inr rfl⟩
  . rintro ⟨hset, rfl | rfl⟩
    . exact .inl ⟨hset, rfl⟩
    . exact .inr ⟨hset, rfl⟩

theorem verifyApprovalMessageGeneric_iff
    : verifyApprovalMessageGeneric clock programId userPubkey approver1 approver2 (some tx) msg
        = .ok () ↔
      (∃ (ix : TransactionInstruction) (parsed : ParsedEd25519),
        0 < tx.currentIndex ∧
        tx.instructions[tx.currentIndex - 1]? = some ix ∧
        ix.programId = ed25519ProgramId ∧
        ix.accounts = [] ∧
        parseEd25519Ix ix.data = .ok (some parsed) ∧
        IsApprover approver1 approver2 parsed.pubkey ∧
        parsed.message = msg.serialize) ∧
      msg.programId = programId ∧ msg.userPubkey = userPubkey ∧
      clock.time ≤ msg.expiryUnix.toNat := by
  simp only [verifyApprovalMessageGeneric, bind_eq_ok, require_eq_ok, okOr_eq_ok,
    loadCurrentIndexChecked, loadInstructionAtChecked, Option.map_some, Option.some.injEq,
    Option.bind_eq_bind, Option.bind_some, isApprover_iff, ApprovalMessage.tryFromSlice_eq_some]
  constructor
  . rintro ⟨_, hexpiry, _, hprogram, _, huser, _, rfl, h⟩
    rcases h with ⟨_, hindex, ix, hix, _, hid, _, haccounts, _, hparse, parsed, rfl, h⟩
    rcases h with ⟨_, _, _, happrover, signedMsg, hmessage, _, _, _, _, _, _, rfl⟩
    exact ⟨⟨ix, parsed, hindex, hix, hid, haccounts, hparse, happrover, hmessage⟩, hprogram, huser,
      hexpiry⟩
  . rintro ⟨⟨ix, parsed, hindex, hix, hid, haccounts, hparse, happrover, hmessage⟩, h⟩
    rcases h with ⟨hprogram, huser, hexpiry⟩
    have hcount := ((parseEd25519Ix_iff ix.data parsed).mp hparse).2.1
    refine ⟨(), hexpiry, (), hprogram, (), huser, _, rfl, (), hindex, ix, hix, (), hid, (), haccounts,
      _, hparse, parsed, rfl, (), hcount, (), happrover, msg, hmessage, (), hprogram, (), huser, (),
      hexpiry, rfl⟩

section Native

/--
What the native program has established when it let an instruction with this data pass: `verifies`
holds of the key, the message and the signature the header of the data points to.
-/
def NativeVerified (verifies : PubkeyBytes → Bytes → Bytes → Prop) (data : Bytes) : Prop :=
  data.getD 0 0 = 1 → le16 data 4 = 65535 → le16 data 8 = 65535 → le16 data 14 = 65535 →
    ∀ (key : PubkeyBytes), key.toList = bytesAt data (le16 data 6) 32 →
      verifies key (bytesAt data (le16 data 10) (le16 data 12)) (bytesAt data (le16 data 2) 64)

def Transaction.NativeVerified (verifies : PubkeyBytes → Bytes → Bytes → Prop)
    (tx : Transaction) : Prop :=
  -- a transaction that has come to its current instruction has passed all the earlier ones
  ∀ (i : Nat) (ix : TransactionInstruction), i < tx.currentIndex → tx.instructions[i]? = some ix →
    ix.programId = ed25519ProgramId → OnreApp.NativeVerified verifies ix.data

theorem verifyApprovalMessageGeneric_signed {verifies : PubkeyBytes → Bytes → Bytes → Prop}
    (hnative : tx.NativeVerified verifies)
    (h : verifyApprovalMessageGeneric clock programId userPubkey approver1 approver2 (some tx) msg
      = .ok ())
    : ∃ (approver : PubkeyBytes) (signature : Bytes),
        IsApprover approver1 approver2 approver ∧ verifies approver msg.serialize signature := by
  rw [verifyApprovalMessageGeneric_iff] at h
  rcases h with ⟨⟨ix, parsed, hindex, hix, hid, _, hparse, happrover, hmessage⟩, _⟩
  rw [parseEd25519Ix_iff] at hparse
  rcases hparse with ⟨hwell, _, hkey, hbytes⟩
  have hverified := hnative (tx.currentIndex - 1) ix (by omega) hix hid hwell.sigCount
    hwell.sigIxIndex hwell.pubkeyIxIndex hwell.msgIxIndex parsed.pubkey hkey
  rw [← hbytes, hmessage] at hverified
  exact ⟨parsed.pubkey, _, happrover, hverified⟩

end Native

end Verify

theorem approval_sound_exact
    : (∀ (data : Bytes),
        (∃ (result : Option ParsedEd25519), parseEd25519Ix data = .ok result) ∧
        ∀ (parsed : ParsedEd25519),
          parseEd25519Ix data = .ok (some parsed) ↔
            Ed25519WellFormed data ∧ parsed.sigCount = 1 ∧
              parsed.pubkey.toList = bytesAt data (le16 data 6) 32 ∧
              parsed.message = bytesAt data (le16 data 10) (le16 data 12)) ∧
      ∀ (clock : Clock) (programId userPubkey approver1 approver2 : PubkeyBytes) (tx : Transaction)
          (msg : ApprovalMessage),
        (verifyApprovalMessageGeneric clock programId userPubkey approver1 approver2 (some tx) msg
            = .ok () ↔
          (∃ (ix : TransactionInstruction) (parsed : ParsedEd25519),
            0 < tx.currentIndex ∧
            tx.instructions[tx.currentIndex - 1]? = some ix ∧
            ix.programId = ed25519ProgramId ∧
            ix.accounts = [] ∧
            parseEd25519Ix ix.data = .ok (some parsed) ∧
            IsApprover approver1 approver2 parsed.pubkey ∧
            parsed.message = msg.serialize) ∧
          msg.programId = programId ∧ msg.userPubkey = userPubkey ∧
          clock.time ≤ msg.expiryUnix.toNat) ∧
        ∀ (verifies : PubkeyBytes → Bytes → Bytes → Prop), tx.NativeVerified verifies →
          verifyApprovalMessageGeneric clock programId userPubkey approver1 approver2 (some tx) msg
            = .ok () →
          (∃ (approver : PubkeyBytes) (signature : Bytes),
            IsApprover approver1 approver2 approver ∧ verifies approver msg.serialize signature) ∧
          (∀ (other : ApprovalMessage), other.serialize = msg.serialize → other = msg) ∧
          msg.programId = programId ∧ msg.userPubkey = userPubkey := by
  constructor
  . intro data
    refine ⟨?_, parseEd25519Ix_iff data⟩
    by_cases h : Ed25519WellFormed data
    . rcases parseEd25519Ix_eq_some h with ⟨_, _, hparse⟩
      exact ⟨_, hparse⟩
    . exact ⟨none, parseEd25519Ix_eq_none h⟩
  . intro clock programId userPubkey approver1 approver2 tx msg
    refine ⟨verifyApprovalMessageGeneric_iff, ?_⟩
    intro verifies hnative h
    refine ⟨verifyApprovalMessageGeneric_signed hnative h, ?_, ?_⟩
    . intro other
      apply ApprovalMessage.serialize_injective
    . rw [verifyApprovalMessageGeneric_iff] at h
      exact ⟨h.2.1, h.2.2.1⟩

namespace Sample

def approver : PubkeyBytes := #v[
  215, 90, 152, 1, 130, 177, 10, 183, 213, 75, 254, 211, 201, 100, 7, 58,
  14, 225, 114, 243, 218, 166, 35, 37, 175, 2, 26, 104, 247, 7, 81, 26]

def approval : ApprovalMessage where
  programId := Vector.replicate 32 7
  userPubkey := Vector.replicate 32 9
  expiryUnix := 2000

-- the approver's Ed25519 signature of the encoded approval
def approvalSignature : Bytes := [
  71, 150, 61, 216, 231, 110, 140, 125, 97, 251, 143, 50, 134, 212, 175, 185,
  158, 73, 220, 186, 69, 184, 130, 27, 84, 93, 239, 199, 9, 190, 125, 38,
  211, 230, 116, 75, 198, 12, 167, 49, 150, 204, 16, 203, 108, 213, 44, 40,
  170, 16, 114, 60, 171, 136, 22, 85, 217, 204, 125, 87, 232, 5, 32, 5]

def approvalData : Bytes :=
  [1, 0, 16, 0, 255, 255, 80, 0, 255, 255, 112, 0, 72, 0, 255, 255] ++ approvalSignature ++
    approver.toList ++ approval.serialize

def approvalTransaction : Transaction where
  instructions := [⟨ed25519ProgramId, [], approvalData⟩, ⟨approval.programId, [], []⟩]
  currentIndex := 1

def approvalVerifies (key : PubkeyBytes) (message signature : Bytes) : Prop :=
  key = approver ∧ message = approval.serialize ∧ signature = approvalSignature

theorem approvalTransaction_nativeVerified
    : approvalTransaction.NativeVerified approvalVerifies := by
  intro i ix hlt hix _ _ _ _ _ key hkey
  have hfirst : i = 0 := by
    have : approvalTransaction.currentIndex = 1 := rfl
    omega
  subst hfirst
  cases hix
  refine ⟨?_, by decide +kernel, by decide +kernel⟩
  apply Vector.toList_inj.mp
  rw [hkey]
  decide +kernel

end Sample

open Sample in
theorem approval_sound_exact_signed
    : verifyApprovalMessageGeneric ⟨1999, 0⟩ approval.programId approval.userPubkey .default approver
        (some approvalTransaction) approval = .ok () ∧
      ∃ (key : PubkeyBytes) (signature : Bytes),
        IsApprover .default approver key ∧ approvalVerifies key approval.serialize signature := by
  have hverified : verifyApprovalMessageGeneric ⟨1999, 0⟩ approval.programId approval.userPubkey
      .default approver (some approvalTransaction) approval = .ok () := by
    decide +kernel
  have hexact := approval_sound_exact.2 ⟨1999, 0⟩ approval.programId approval.userPubkey .default
    approver approvalTransaction approval
  exact ⟨hverified, (hexact.2 approvalVerifies approvalTransaction_nativeVerified hverified).1⟩

end OnreApp
