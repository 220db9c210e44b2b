import EmbeddedPus.Process
import EmbeddedPus.Service3
import EmbeddedPus.Service5

namespace EmbeddedPus

open CallTrace

variable {cfg : Config} {A : Type}

structure OutBuf where
  out : Option (List UInt8)
  capacity : UInt16
  fits : ∀ o, out = some o → capacity.toNat ≤ o.length

/-- The calls of the library that can build packets, by what they return. -/
inductive Op : Type → Type
  | tcProcess (ctx : Option Ptr) (data : Option (List UInt8)) (len : UInt16) : Op Status
  | handlerInvoke (ctx : Option Ptr) (service subtype : UInt8) (tc : Option TcPacket) : Op Status
  | tmBuild (ctx : Option Ptr) (service subtype : UInt8) (destinationId : UInt16)
      (payload : Option (List UInt8)) (payloadLen : UInt16) (out : OutBuf)
      (outLen : Option UInt16) : Op Written
  | service1BuildSuccess (ctx : Option Ptr) (tc : Option TcPacket) (subtype : UInt8)
      (out : OutBuf) (outLen : Option UInt16) : Op Written
  | service1BuildFailure (ctx : Option Ptr) (tc : Option TcPacket) (subtype : UInt8)
      (failureCode : UInt16) (out : OutBuf) (outLen : Option UInt16) : Op Written
  | service1EmitSuccess (ctx : Option Ptr) (tc : Option TcPacket) (subtype : UInt8) : Op Status
  | service1EmitFailure (ctx : Option Ptr) (tc : Option TcPacket) (subtype : UInt8)
      (failureCode : UInt16) : Op Status
  | service3EmitHk (ctx s3 : Option Ptr) (sid : UInt16) : Op Status
  | service3EmitDiag (ctx s3 : Option Ptr) (sid : UInt16) : Op Status
  | service5Emit (ctx : Option Ptr) (subtype : UInt8) (eventId : UInt16)
      (auxData : Option (List UInt8)) (auxLen : UInt16) : Op Status
  | service17EmitAliveReport (ctx : Option Ptr) (destinationId : UInt16) : Op Status
  | service17EmitConnectionReport (ctx : Option Ptr) (apid destinationId : UInt16) : Op Status
  | service20EmitReport (ctx s20 : Option Ptr) (paramIds : Option (List UInt16)) (count : UInt8) :
      Op Status

def Op.exec (cb : Callbacks cfg A) {α : Type} : Op α → Pus cfg A α
  | .tcProcess ctx data len => pusTcProcess cb ctx data len
  | .handlerInvoke ctx service subtype tc => pusHandlerInvoke cb ctx service subtype tc
  | .tmBuild ctx service subtype dest payload payloadLen b outLen =>
    pusTmBuild cb ctx service subtype dest payload payloadLen b.out b.capacity outLen
  | .service1BuildSuccess ctx tc subtype b outLen =>
    pusService1BuildSuccess cb ctx tc subtype b.out b.capacity outLen
  | .service1BuildFailure ctx tc subtype code b outLen =>
    pusService1BuildFailure cb ctx tc subtype code b.out b.capacity outLen
  | .service1EmitSuccess ctx tc subtype => pusService1EmitSuccess cb ctx tc subtype
  | .service1EmitFailure ctx tc subtype code => pusService1EmitFailure cb ctx tc subtype code
  | .service3EmitHk ctx s3 sid => pusService3EmitHk cb ctx s3 sid
  | .service3EmitDiag ctx s3 sid => pusService3EmitDiag cb ctx s3 sid
  | .service5Emit ctx subtype eventId auxData auxLen =>
    pusService5Emit cb ctx subtype eventId auxData auxLen
  | .service17EmitAliveReport ctx dest => pusService17EmitAliveReport cb ctx dest
  | .service17EmitConnectionReport ctx apid dest =>
    pusService17EmitConnectionReport cb ctx apid dest
  | .service20EmitReport ctx s20 ids count => pusService20EmitReport cb ctx s20 ids count

def Op.buildsOnly {α : Type} : Op α → Bool
  | .service1BuildSuccess .. | .service1BuildFailure .. => true
  | _ => false

def packetOf (c : Ptr) : Act → List (List UInt8)
  | .packet d bytes => if d = c then [bytes] else []
  | .read _ => []

def readingOf (c : Ptr) : Call cfg → List UInt32
  | .timeSource d _ _ time => if d = c then [time] else []
  | _ => []

def deliveryOf (c : Ptr) : Call cfg → List (List UInt8)
  | .tmSink d _ _ bytes _ => if d = c then [bytes] else []
  | _ => []

/-- The packets built for the context `c`, in the order they were built, those of callbacks
included. -/
def built (c : Ptr) (t : History cfg) : List (List UInt8) := t.deep (packetOf c) fun _ ↦ []

def readings (c : Ptr) (t : History cfg) : List UInt32 := t.deep (fun _ ↦ []) (readingOf c)

def delivered (c : Ptr) (t : History cfg) : List (List UInt8) := t.deep (fun _ ↦ []) (deliveryOf c)

section Observe

variable {c : Ptr}

@[simp] theorem built_nil : built c (.nil : History cfg) = [] := rfl

@[simp] theorem readings_nil : readings c (.nil : History cfg) = [] := rfl

@[simp] theorem delivered_nil : delivered c (.nil : History cfg) = [] := rfl

@[simp] theorem built_append (t u : History cfg) : built c (t ++ u) = built c t ++ built c u :=
  Trace.deep_append ..

@[simp] theorem readings_append (t u : History cfg) :
    readings c (t ++ u) = readings c t ++ readings c u := Trace.deep_append ..

@[simp] theorem delivered_append (t u : History cfg) :
    delivered c (t ++ u) = delivered c t ++ delivered c u := Trace.deep_append ..

@[simp] theorem built_act (a : Act) (t : History cfg) :
    built c (.act a t) = packetOf c a ++ built c t := rfl

@[simp] theorem readings_act (a : Act) (t : History cfg) :
    readings c (.act a t) = readings c t := rfl

@[simp] theorem delivered_act (a : Act) (t : History cfg) :
    delivered c (.act a t) = delivered c t := rfl

@[simp] theorem built_call (f : Call cfg) (i t : History cfg) :
    built c (.call f i t) = built c i ++ built c t := rfl

@[simp] theorem readings_call (f : Call cfg) (i t : History cfg) :
    readings c (.call f i t) = readingOf c f ++ readings c i ++ readings c t := rfl

@[simp] theorem delivered_call (f : Call cfg) (i t : History cfg) :
    delivered c (.call f i t) = deliveryOf c f ++ delivered c i ++ delivered c t := rfl

end Observe

/-- What nothing but the library itself changes in a context that is not initialised again: the
counter and the time source, and the sink of one that is to keep its sink. -/
structure Steady (keepSink : Prop) (k k' : Context cfg) : Prop where
  counter : k'.tmCounter = k.tmCounter
  timeSource : k'.timeSource = k.timeSource
  timeSourceUserData : k'.timeSourceUserData = k.timeSourceUserData
  tmSink : keepSink → k'.tmSink = k.tmSink ∧ k'.tmSinkUserData = k.tmSinkUserData

/-- A computation that leaves the context `c` steady and builds no packet for it. Apart from that
it does what it likes: it may register handlers and parameters, or work on other contexts. -/
def Quiet (c : Ptr) (keepSink : Prop) {α : Type} (m : Pus cfg A α) : Prop :=
  ∀ w, Steady keepSink (w.ctx c) ((m w).state.ctx c) ∧ built c (m w).trace = [] ∧
    readings c (m w).trace = [] ∧ delivered c (m w).trace = []

structure QuietOutput (c : Ptr) (keepSink : Prop) (cb : Callbacks cfg A) : Prop where
  tmSink : ∀ f ud data, Quiet c keepSink (cb.tmSink f ud data)
  timeSource : ∀ f ud, Quiet c keepSink (cb.timeSource f ud)

/-- The runs an application can make of the library without initialising the context `c` again:
quiet steps and library calls one after the other, in which handlers, providers, getters and
setters are such runs themselves. With `keepSink` the context keeps its sink, and no packet is
built without delivering it. -/
inductive Run (c : Ptr) (keepSink : Prop) : {α : Type} → Pus cfg A α → Prop
  | quiet {α : Type} {m : Pus cfg A α} (h : Quiet c keepSink m) : Run c keepSink m
  | bind {α β : Type} {m : Pus cfg A α} {f : α → Pus cfg A β} (hm : Run c keepSink m)
      (hf : ∀ a, Run c keepSink (f a)) : Run c keepSink (m >>= f)
  | call {α : Type} (cb : Callbacks cfg A) (o : Op α) (hq : QuietOutput c keepSink cb)
      (ho : keepSink → o.buildsOnly = false)
      (handler : ∀ f d tc ud, Run c keepSink (cb.handler f d tc ud))
      (provider : ∀ f sid capacity ud, Run c keepSink (cb.provider f sid capacity ud))
      (getter : ∀ f pid capacity ud, Run c keepSink (cb.getter f pid capacity ud))
      (setter : ∀ f pid buf len ud, Run c keepSink (cb.setter f pid buf len ud)) :
      Run c keepSink (o.exec cb)

end EmbeddedPus
