import Actix.Future
import Actix.Handler
import Actix.ContextItems.Items
import Actix.ContextItems.MessageRun
import Actix.ContextItems.StreamItem
import Actix.ContextItems.StreamLoop
import Actix.ContextItems.StreamRun
import Actix.ContextItems.StreamMerge
import Actix.Chat.Main
