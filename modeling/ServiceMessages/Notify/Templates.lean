import ServiceMessages.Common.Strings

/-!
# The texts of notifications

For every type of notification two printers: one that tells what the message
is about, and one that tells nothing.
-/

namespace ServiceMessages.Notify

inductive NotificationType where
  | MESSAGE
  | REMINDER_READ
  | REMINDER_PAYMENT
  | REMINDER_PAYMENT_LAST
deriving DecidableEq

/-- What a printer may print.  The title is the subject of the message, taken
by an unchecked cast. -/
structure NotificationEntry where
  organizationName : NonEmptyString
  serviceName : NonEmptyString
  title : String
deriving DecidableEq

structure NotificationPrinter where
  title : String
  body : String
deriving DecidableEq

structure IPrintersForTemplate where
  silentPushPrinter : NotificationEntry → NotificationPrinter
  verbosePushPrinter : NotificationEntry → NotificationPrinter

def youHaveANewMessage : String := "Hai un nuovo messaggio"

def youHaveAnUnreadMessage : String := "Hai un messaggio non letto"

def openTheAppToReadIt : String := "Entra nell'app per leggerlo"

def youHaveANoticeToPay : String := "Hai un avviso da pagare"

def openTheAppToPayIt : String := "Entra nell'app per pagarlo"

def youHaveANoticeExpiringTomorrow : String := "Hai un avviso che scade domani"

def messagePrinter : IPrintersForTemplate where
  silentPushPrinter _ne :=
    { title := youHaveANewMessage
      body := openTheAppToReadIt }
  verbosePushPrinter ne :=
    { title := ne.organizationName.val
      body := ne.title }

def reminderReadPrinter : IPrintersForTemplate where
  silentPushPrinter _ne :=
    { title := youHaveAnUnreadMessage
      body := openTheAppToReadIt }
  verbosePushPrinter ne :=
    { title := "Leggi il messaggio da " ++ ne.organizationName.val
      body := ne.title }

def reminderPaymentPrinter : IPrintersForTemplate where
  silentPushPrinter _ne :=
    { title := youHaveANoticeToPay
      body := openTheAppToPayIt }
  verbosePushPrinter ne :=
    { title := youHaveANoticeToPay
      body := "Entra nell’app e paga l’avviso emesso da " ++ ne.organizationName.val }

def reminderPaymentLastPrinter : IPrintersForTemplate where
  silentPushPrinter _ne :=
    { title := youHaveANoticeExpiringTomorrow
      body := openTheAppToPayIt }
  verbosePushPrinter ne :=
    { title := youHaveANoticeExpiringTomorrow
      body := "Entra nell’app e paga l’avviso emesso da " ++ ne.organizationName.val }

def getPrinterForTemplate : NotificationType → IPrintersForTemplate
  | .MESSAGE => messagePrinter
  | .REMINDER_READ => reminderReadPrinter
  | .REMINDER_PAYMENT => reminderPaymentPrinter
  | .REMINDER_PAYMENT_LAST => reminderPaymentLastPrinter

/-- No template prints anything of the entry when it has to be silent. -/
theorem silentPushPrinter_const (notificationType : NotificationType)
    (first second : NotificationEntry) :
    (getPrinterForTemplate notificationType).silentPushPrinter first =
      (getPrinterForTemplate notificationType).silentPushPrinter second := by
  cases notificationType <;> rfl

end ServiceMessages.Notify
