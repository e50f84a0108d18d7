import SpirvMetal.Metal.Helper.Definition

/-!
Swizzling of texture samples by constants that are known only when the program runs: each byte of
the constant says what one component becomes.
-/

namespace SpirvMetal.HelperDefinition

def cases (arms : List (String × List String)) : List String :=
  arms.flatMap fun (label, body) => s!"case {label}:" :: indented body

def swizzleEnum : HelperDefinition where
  name := "spvSwizzle"
  lines :=
    ["enum class spvSwizzle : uint", "\x7b"] ++
    indented ["none = 0,", "zero,", "one,", "red,", "green,", "blue,", "alpha"] ++ ["\x7d;", ""]

def removeReference : HelperDefinition where
  name := "spvRemoveReference"
  lines :=
    ["", "<thread T&>", "<thread T&&>"].map fun reference =>
      s!"template<typename T> struct spvRemoveReference{reference} " ++ "\x7b typedef T type; \x7d;"

def forward : HelperDefinition where
  name := "spvForward"
  calls := ["spvRemoveReference"]
  lines :=
    let overload (reference : String) :=
      ("template<typename T> inline constexpr thread T&& spvForward(" ++
        s!"thread typename spvRemoveReference<T>::type{reference} x)") ::
      enclosed ["return static_cast<thread T&&>(x);"]
    overload "&" ++ overload "&&" ++ [""]

def getSwizzle : HelperDefinition where
  name := "spvGetSwizzle"
  calls := ["spvSwizzle"]
  lines :=
    let arms :=
      [("none", "c"), ("zero", "0"), ("one", "1"), ("red", "x.r"), ("green", "x.g"),
        ("blue", "x.b"), ("alpha", "x.a")]
    ["template<typename T>", "inline T spvGetSwizzle(vec<T, 4> x, T c, spvSwizzle s)"] ++
    enclosed
      ("switch (s)" ::
        enclosed (cases (arms.map fun (name, value) =>
          (s!"spvSwizzle::{name}", [s!"return {value};"])))) ++
    [""]

def textureSwizzle : HelperDefinition where
  name := "spvTextureSwizzle"
  calls := ["spvGetSwizzle", "spvSwizzle"]
  lines :=
    let component : String × Nat → String := fun (letter, shift) =>
      s!"spvGetSwizzle(x, x.{letter}, spvSwizzle((s >> {shift}) & 0xFF))"
    let components := [("r", 0), ("g", 8), ("b", 16), ("a", 24)].map component
    ["// Wrapper function that swizzles texture samples and fetches.", "template<typename T>",
      "inline vec<T, 4> spvTextureSwizzle(vec<T, 4> x, uint s)"] ++
    enclosed
      (["if (!s)"] ++ indented ["return x;"] ++
        ["return vec<T, 4>(" ++ ", ".intercalate components ++ ");"]) ++
    ["", "template<typename T>", "inline T spvTextureSwizzle(T x, uint s)"] ++
    enclosed ["return spvTextureSwizzle(vec<T, 4>(x, 0, 0, 1), s).x;"] ++ [""]

def gatherSwizzle : HelperDefinition where
  name := "spvGatherSwizzle"
  calls := ["spvSwizzle", "spvForward"]
  lines :=
    let gather (component : String) :=
      s!"return t.gather(s, spvForward<Ts>(params)..., component::{component});"
    let colors := [("red", "x"), ("green", "y"), ("blue", "z"), ("alpha", "w")]
    ["// Wrapper function that swizzles texture gathers.",
      "template<typename T, typename Tex, typename... Ts>",
      "inline vec<T, 4> spvGatherSwizzle(sampler s, const thread Tex& t, Ts... params, " ++
        "component c, uint sw) METAL_CONST_ARG(c)"] ++
    enclosed
      ("if (sw)" ::
        enclosed
          ("switch (spvSwizzle((sw >> (uint(c) * 8)) & 0xFF))" ::
            enclosed
              (cases
                ([("spvSwizzle::none", ["break;"]),
                  ("spvSwizzle::zero", ["return vec<T, 4>(0, 0, 0, 0);"]),
                  ("spvSwizzle::one", ["return vec<T, 4>(1, 1, 1, 1);"])] ++
                  colors.map fun (color, component) =>
                    (s!"spvSwizzle::{color}", [gather component])))) ++
        "switch (c)" ::
          enclosed (cases (colors.map fun (_, component) =>
            (s!"component::{component}", [gather component])))) ++
    [""]

def gatherCompareSwizzle : HelperDefinition where
  name := "spvGatherCompareSwizzle"
  calls := ["spvSwizzle", "spvForward"]
  lines :=
    ["// Wrapper function that swizzles depth texture gathers.",
      "template<typename T, typename Tex, typename... Ts>",
      "inline vec<T, 4> spvGatherCompareSwizzle(sampler s, const thread Tex& t, Ts... params, " ++
        "uint sw)"] ++
    enclosed
      ("if (sw)" ::
        enclosed
          ("switch (spvSwizzle(sw & 0xFF))" ::
            enclosed
              (cases
                [("spvSwizzle::none", []), ("spvSwizzle::red", ["break;"]),
                  ("spvSwizzle::zero", []), ("spvSwizzle::green", []), ("spvSwizzle::blue", []),
                  ("spvSwizzle::alpha", ["return vec<T, 4>(0, 0, 0, 0);"]),
                  ("spvSwizzle::one", ["return vec<T, 4>(1, 1, 1, 1);"])])) ++
        ["return t.gather_compare(s, spvForward<Ts>(params)...);"])

def swizzle : List HelperDefinition :=
  [swizzleEnum, removeReference, forward, getSwizzle, textureSwizzle, gatherSwizzle,
    gatherCompareSwizzle]

end SpirvMetal.HelperDefinition
