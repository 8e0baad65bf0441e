import FrancaAudit.Proofs.Check.Alias

/-!
Buffers of bytes that are written down as brackets.

An item whose value is known has to fit a byte, and nothing else is asked of it. Any other item is
held against a type, and this is the type of the buffer: an integer that nobody knows the value of
is refused, and a whole buffer may take the place of a byte. An array of bytes asks for an integer
there.
-/

namespace FrancaAudit.Check

variable (model : Model)

theorem knownOr_congr (range : Range) (type other : ValueType) (expr : Expr)
    (neither : foldInt model expr = none →
      infer model expr ≠ some type ∧ infer model expr ≠ some other) :
    KnownOr model range type expr ↔ KnownOr model range other expr := by
  apply or_congr_right
  apply and_congr_right
  intro unknown
  obtain ⟨first, second⟩ := neither unknown
  simp [first, second]

theorem fits_buffer (ref actual : TypeRef) (path : Relation.ReflTransGen model.Aliases ref actual)
    (buffer : actual.kind = .primitive .byteBuffer) (items : List BracketItem) :
    fits model (.bracket items) ⟨ref, false⟩ = .ok () ↔
      Each .item (KnownOr model byteRange .byteBuffer) items := by
  have settled := model.settled_of_underived actual (by simp [buffer])
  have typed := valueType_primitive model actual .byteBuffer buffer
  rw [fits_of_path model ref actual path settled, wanted_primitive model actual .byteBuffer buffer]
  change fitBytes model actual items 0 = .ok () ↔ _
  rw [fitBytes_eq_ok]
  apply each_congr
  intro value _
  exact fitsRange_knownOr model value actual byteRange _ typed (Or.inr rfl)

/-- Where no item of unknown value is an integer or a buffer, it makes no difference which of the
two an item of unknown value would have to be. -/
theorem fits_buffer_integer (ref actual : TypeRef)
    (path : Relation.ReflTransGen model.Aliases ref actual)
    (buffer : actual.kind = .primitive .byteBuffer) (items : List BracketItem)
    (neither : ∀ value, .item value ∈ items → foldInt model value = none →
      infer model value ≠ some .byteBuffer ∧ infer model value ≠ some .integer) :
    fits model (.bracket items) ⟨ref, false⟩ = .ok () ↔
      Each .item (KnownOr model byteRange .integer) items := by
  rw [fits_buffer model ref actual path buffer items]
  apply each_congr
  intro value member
  exact knownOr_congr model byteRange .byteBuffer .integer value (neither value member)

theorem fits_byteArray (ref actual : TypeRef)
    (path : Relation.ReflTransGen model.Aliases ref actual)
    (byte : actual.kind = .primitive .uint8) (items : List BracketItem) :
    fits model (.bracket items) ⟨ref, true⟩ = .ok () ↔
      Each .item (KnownOr model byteRange .integer) items := by
  have settled := model.settled_of_underived actual (by simp [byte])
  have typed := valueType_primitive model actual .uint8 byte
  rw [fits_items, fitItems_eq_ok]
  apply each_congr
  intro value _
  rw [fits_of_path model ref actual path settled, wanted_primitive model actual .uint8 byte]
  exact fitsRange_knownOr model value actual byteRange _ typed (Or.inl rfl)

/-- Then a bracket fits a buffer exactly if it fits an array of bytes. -/
theorem buffer_iff_byteArray (ref actual bytes byte : TypeRef)
    (path : Relation.ReflTransGen model.Aliases ref actual)
    (buffer : actual.kind = .primitive .byteBuffer)
    (bytePath : Relation.ReflTransGen model.Aliases bytes byte)
    (isByte : byte.kind = .primitive .uint8) (items : List BracketItem)
    (neither : ∀ value, .item value ∈ items → foldInt model value = none →
      infer model value ≠ some .byteBuffer ∧ infer model value ≠ some .integer) :
    fits model (.bracket items) ⟨ref, false⟩ = .ok () ↔
      fits model (.bracket items) ⟨bytes, true⟩ = .ok () := by
  rw [fits_buffer_integer model ref actual path buffer items neither,
    fits_byteArray model bytes byte bytePath isByte items]

/-- A bracket fits a buffer exactly if each item is known to fit a byte or, where its value is not
known, is a buffer. So where no item of unknown value is an integer or a buffer, the bracket fits
exactly if each item is an integer as it would be in an array of bytes. -/
theorem buffer_bracket (ref actual : TypeRef)
    (path : Relation.ReflTransGen model.Aliases ref actual)
    (buffer : actual.kind = .primitive .byteBuffer) (items : List BracketItem) :
    (fits model (.bracket items) ⟨ref, false⟩ = .ok () ↔
      Each .item (KnownOr model byteRange .byteBuffer) items) ∧
    ((∀ value, .item value ∈ items → foldInt model value = none →
        infer model value ≠ some .byteBuffer ∧ infer model value ≠ some .integer) →
      (fits model (.bracket items) ⟨ref, false⟩ = .ok () ↔
        Each .item (KnownOr model byteRange .integer) items)) :=
  ⟨fits_buffer model ref actual path buffer items,
    fits_buffer_integer model ref actual path buffer items⟩

/-- A sensor whose level is a byte that is known only when it runs. The type of its packets is the
one of its header under another name. -/
def sensor : Model where
  name := "sensor"
  collections := []
  interfaces :=
    [⟨"Sensor", .unknown, [], none,
      [⟨"level", .unknown, [], ⟨.primitive .uint8, false⟩, false, false⟩], [], [], [⟨0⟩],
      [⟨0⟩, ⟨1⟩, ⟨2⟩], none⟩]
  types := [⟨"Packet", .unknown, .interface ⟨0⟩, [], .alias (.primitive .byteBuffer)⟩]
  constants :=
    [⟨"HEADER", .unknown, .interface ⟨0⟩, [], ⟨.primitive .byteBuffer, false⟩,
        .bracket [.item (.literal (.integer 1)), .item (.literal (.integer 2))]⟩,
      ⟨"PACKET", .unknown, .interface ⟨0⟩, [], ⟨.derived ⟨0⟩, false⟩,
        .bracket [.item (.ref (.constant ⟨0⟩)), .item (.literal (.integer 3))]⟩,
      ⟨"LEVELS", .unknown, .interface ⟨0⟩, [], ⟨.primitive .byteBuffer, false⟩,
        .bracket [.item (.ref (.attribute ⟨0⟩ 0))]⟩]

theorem sensor_packet : sensor.Aliases (.derived ⟨0⟩) (.primitive .byteBuffer) :=
  ⟨⟨0⟩, rfl, _, rfl, rfl⟩

theorem sensor_bracket :
    sensor.resolveAlias (.derived ⟨0⟩) = some (.primitive .byteBuffer) ∧
      fits sensor (.bracket [.item (.literal (.integer 255))]) ⟨.derived ⟨0⟩, false⟩ = .ok () := by
  obtain ⟨_, criterion⟩ := buffer_bracket sensor (.derived ⟨0⟩) (.primitive .byteBuffer)
    (.single sensor_packet) rfl [.item (.literal (.integer 255))]
  refine ⟨rfl, (criterion ?_).mpr ?_⟩
  · rintro value member unknown
    obtain rfl : value = .literal (.integer 255) := by simpa using member
    exact absurd unknown (by simp [foldInt, foldWithin])
  · rw [each_cons _ _ item_injective]
    exact ⟨Or.inl ⟨255, rfl, by decide⟩, each_nil _ _⟩

/-- Both ways, in a model whose types are in order: the levels are integers and are refused, a
packet has a whole header in the place of a byte and is let through. -/
theorem sensor_items :
    sensor.Linked ∧ typeOrder sensor = .ok [⟨0⟩] ∧
      (let levels := [.item (.ref (.attribute ⟨0⟩ 0))]
       fits sensor (.bracket levels) ⟨.primitive .byteBuffer, false⟩ =
          .error (.inItem 0 (.otherType .byteBuffer .integer)) ∧
        Each .item (KnownOr sensor byteRange .integer) levels) ∧
      (let packet := [.item (.ref (.constant ⟨0⟩)), .item (.literal (.integer 3))]
       fits sensor (.bracket packet) ⟨.derived ⟨0⟩, false⟩ = .ok () ∧
        ¬ Each .item (KnownOr sensor byteRange .integer) packet) := by
  refine ⟨rfl, rfl, ⟨rfl, ?_⟩, rfl, ?_⟩
  · rw [each_cons _ _ item_injective]
    exact ⟨Or.inr ⟨rfl, rfl⟩, each_nil _ _⟩
  · rw [each_cons _ _ item_injective]
    have unknown : foldInt sensor (.ref (.constant ⟨0⟩)) = none := rfl
    rintro ⟨⟨value, folded, _⟩ | ⟨_, integer⟩, _⟩
    · simp [unknown] at folded
    · exact absurd integer (by decide)

end FrancaAudit.Check
