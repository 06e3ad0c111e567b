import CallChain.Json.Value

/-!
# Fault codes

A fault code is a number together with the HTTP status it corresponds to and its messages by locale.
The base table holds the codes every registry starts with; two of them have a part of their own,
success and unknown.
-/

set_option autoImplicit false

namespace CallChain

/-- A code with the HTTP status it corresponds to and its messages by locale. -/
structure FaultCode where
  code : Int
  httpStatus : Nat
  messages : SortedMap String String
  deriving DecidableEq

namespace FaultCode

/-- The locale that stands in for a missing one. -/
def english : String := "en"

def chinese : String := "zh"

/-- The message for a locale, else the English one, else nothing. -/
def message (c : FaultCode) (locale : String) : String :=
  ((c.messages.get? locale).or (c.messages.get? english)).getD ""

/-- A code with an English and a Chinese message. -/
def withMessages (code : Int) (httpStatus : Nat) (en zh : String) : FaultCode :=
  ⟨code, httpStatus, (SortedMap.empty.insert english en).insert chinese zh⟩

def toJson (c : FaultCode) : Json :=
  .ofEntries
    [("code", .int c.code), ("http", .nat c.httpStatus),
      ("messages", .ofMap (c.messages.mapValues .string))]

end FaultCode

namespace Codes

def success : Int := 100001

def unknown : Int := 100002

/-- A value could not be encoded as JSON. -/
def encodingJson : Int := 100304

/-- A request could not be made, sent or answered. -/
def httpError : Int := 100501

/-- The body of a response could not be decoded. -/
def responseParse : Int := 100502

/-- A client or its connection could not be set up. -/
def clientGenerate : Int := 100503

/-- The client does not present a certificate. -/
def clientCertificate : Int := 100702

/-- A handler run against the connection did not finish. -/
def rpcInvoke : Int := 100704

/-- A reply carries no usable call status. -/
def callStatusViolation : Int := 100706

def successCode : FaultCode := .withMessages success 200 "Success." "请求成功"

/-- The code that stands for every code that is not registered. -/
def unknownCode : FaultCode := .withMessages unknown 500 "Internal server error." "服务器出错"

def baseTable : List FaultCode :=
  [ successCode,
    unknownCode,
    .withMessages 100003 400 "Error occurred while binding the request body to the struct."
      "解析结构体出错",
    .withMessages 100004 400 "Validation failed." "参数校验失败",
    .withMessages 100005 401 "Token invalid." "令牌无效",
    .withMessages 100006 404 "Page not found." "请求路由不存在",
    .withMessages 100301 500 "Encoding failed due to an error with the data." "数据编码出错",
    .withMessages 100302 500 "Decoding failed due to an error with the data." "数据解码出错",
    .withMessages 100303 500 "Data is not valid JSON." "数据非有效JSON结构",
    .withMessages encodingJson 500 "JSON data could not be encoded." "JSON数据编码失败",
    .withMessages 100305 500 "JSON data could not be decoded." "JSON数据解码失败",
    .withMessages httpError 500 "HTTP request error." "HTTP请求失败",
    .withMessages responseParse 500 "Decode data from http response error."
      "解析HTTP服务返回数据失败",
    .withMessages clientGenerate 500 "Generate client error." "生成客户端失败",
    .withMessages 100701 500 "Generate RPC client error." "生成RPC客户端失败",
    .withMessages clientCertificate 500 "Validate client certificate error." "客户端证书错误",
    .withMessages 100703 500 "Dial to RPC server error." "RPC客户端连接失败",
    .withMessages rpcInvoke 500 "Invoke RPC service function error."
      "RPC客户端访问服务接口失败",
    .withMessages 100705 500 "Decode data from RPC service error." "解析RPC服务返回数据失败",
    .withMessages callStatusViolation 500 "Response does not carry a call status."
      "返回数据缺少调用状态" ]

end Codes

end CallChain
